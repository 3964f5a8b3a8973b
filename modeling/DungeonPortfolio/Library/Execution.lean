import Mathlib.Data.List.Induction

/-!
# Runs of executable labelled transition systems

A system is a partial step function: `step s l = some t` when label `l` is
enabled in `s` and leads to `t`. Statements about whole runs quantify over the
label list, so a run is an ordinary value and a concrete one can be evaluated.
The two rules used everywhere are `invariant_of_run` (a property kept by every
step) and `guarded_invariant` (a property kept by every step that meets a
condition on the state before it).
-/

namespace Library.Execution

set_option autoImplicit false

variable {State Label : Type*} (step : State → Label → Option State)

def run : State → List Label → Option State
  | state, [] => some state
  | state, label :: rest => (step state label).bind fun next => run next rest

/-- Some finite run from `start` ends in `state`. -/
def Reachable (start state : State) : Prop := ∃ labels, run step start labels = some state

/-- Every step taken along the run is related by `relation` (state before,
label, state after). -/
def EveryStep (relation : State → Label → State → Prop) (start : State)
    (labels : List Label) : Prop :=
  ∀ before label after source target, labels = before ++ label :: after →
    run step start before = some source → step source label = some target →
      relation source label target

@[simp] theorem run_nil (state : State) : run step state [] = some state := rfl

theorem run_append (state : State) (first second : List Label) :
    run step state (first ++ second) =
      (run step state first).bind fun next => run step next second := by
  induction first generalizing state with
  | nil => rfl
  | cons label rest ih =>
      simp only [List.cons_append, run, Option.bind_assoc]
      congr 1
      funext next
      exact ih next

theorem run_snoc (state : State) (labels : List Label) (label : Label) :
    run step state (labels ++ [label]) =
      (run step state labels).bind fun next => step next label := by
  rw [run_append]
  congr 1
  funext next
  exact Option.bind_fun_some _

theorem run_snoc_eq_some {start target : State} {labels : List Label} {label : Label} :
    run step start (labels ++ [label]) = some target ↔
      ∃ source, run step start labels = some source ∧ step source label = some target := by
  rw [run_snoc, Option.bind_eq_some_iff]

theorem reachable_refl (start : State) : Reachable step start start := ⟨[], rfl⟩

variable {step}

theorem Reachable.next {start source target : State} {label : Label}
    (reached : Reachable step start source) (taken : step source label = some target) :
    Reachable step start target := by
  obtain ⟨labels, ran⟩ := reached
  exact ⟨labels ++ [label], (run_snoc_eq_some step).mpr ⟨source, ran, taken⟩⟩

theorem invariant_of_run {invariant : State → Prop} {start target : State} {labels : List Label}
    (initial : invariant start)
    (preserved : ∀ source label next, invariant source → step source label = some next →
      invariant next)
    (ran : run step start labels = some target) : invariant target := by
  induction labels using List.reverseRecOn generalizing target with
  | nil =>
      obtain rfl : start = target := Option.some.inj ran
      exact initial
  | append_singleton labels label ih =>
      obtain ⟨source, earlier, taken⟩ := (run_snoc_eq_some step).mp ran
      exact preserved source label target (ih earlier) taken

theorem Reachable.invariant {invariant : State → Prop} {start target : State}
    (reached : Reachable step start target) (initial : invariant start)
    (preserved : ∀ source label next, invariant source → step source label = some next →
      invariant next) : invariant target := by
  obtain ⟨labels, ran⟩ := reached
  exact invariant_of_run initial preserved ran

theorem every_step_nil (relation : State → Label → State → Prop) (start : State) :
    EveryStep step relation start [] := by
  intro before label after source target split
  simp at split

theorem every_step_snoc {relation : State → Label → State → Prop} {start : State}
    {labels : List Label} {label : Label} :
    EveryStep step relation start (labels ++ [label]) ↔
      EveryStep step relation start labels ∧
        ∀ source target, run step start labels = some source →
          step source label = some target → relation source label target := by
  constructor
  · intro every
    refine ⟨?_, ?_⟩
    · intro before middle after source target split earlier taken
      exact every before middle (after ++ [label]) source target (by simp [split]) earlier taken
    · intro source target earlier taken
      exact every labels label [] source target rfl earlier taken
  · rintro ⟨every, last⟩ before middle after source target split earlier taken
    rcases List.eq_nil_or_concat after with rfl | ⟨front, final, rfl⟩
    · obtain ⟨rfl, rfl⟩ : labels = before ∧ label = middle := by
        simpa using List.append_inj' split rfl
      exact last source target earlier taken
    · rw [List.concat_eq_append, ← List.cons_append, ← List.append_assoc] at split
      have parts := List.append_inj' split rfl
      exact every before middle front source target parts.1 earlier taken

/-- A property kept by every step that meets `condition` in the state before it
holds at the end of every run all of whose steps meet the condition. -/
theorem guarded_invariant {invariant : State → Prop} {condition : State → Label → Prop}
    {start target : State} {labels : List Label} (initial : invariant start)
    (preserved : ∀ source label next, invariant source → condition source label →
      step source label = some next → invariant next)
    (met : EveryStep step (fun source label _ => condition source label) start labels)
    (ran : run step start labels = some target) : invariant target := by
  induction labels using List.reverseRecOn generalizing target with
  | nil =>
      obtain rfl : start = target := Option.some.inj ran
      exact initial
  | append_singleton labels label ih =>
      obtain ⟨source, earlier, taken⟩ := (run_snoc_eq_some step).mp ran
      obtain ⟨before, last⟩ := every_step_snoc.mp met
      exact preserved source label target (ih before earlier) (last source target earlier taken)
        taken

theorem every_step_of_labels {condition : Label → Prop} {start : State} {labels : List Label}
    (all : ∀ label ∈ labels, condition label) :
    EveryStep step (fun _ label _ => condition label) start labels := by
  intro before label after source target split _ _
  apply all
  rw [split]
  exact List.mem_append_right before List.mem_cons_self

/-- Two step relations that agree on every step out of a reachable state hold
along the same runs. -/
theorem every_step_congr {first second : State → Label → State → Prop} {start : State}
    {labels : List Label}
    (same : ∀ source label target, Reachable step start source →
      step source label = some target → (first source label target ↔ second source label target)) :
    EveryStep step first start labels ↔ EveryStep step second start labels := by
  constructor
  · intro every before label after source target split earlier taken
    exact (same source label target ⟨before, earlier⟩ taken).mp
      (every before label after source target split earlier taken)
  · intro every before label after source target split earlier taken
    exact (same source label target ⟨before, earlier⟩ taken).mpr
      (every before label after source target split earlier taken)

/-- If out of states with the property a step keeps it exactly when it meets the
condition, then a run has the property throughout exactly when all its steps
meet the condition. -/
theorem every_step_exact {property : State → Prop} {condition : State → Label → Prop}
    {start : State} {labels : List Label} (initial : property start)
    (exact : ∀ source label target, Reachable step start source → property source →
      step source label = some target → (property target ↔ condition source label)) :
    EveryStep step (fun _ _ target => property target) start labels ↔
      EveryStep step (fun source label _ => condition source label) start labels := by
  have holds : ∀ {front : List Label} {source : State},
      EveryStep step (fun _ _ target => property target) start front →
        run step start front = some source → property source := by
    intro front source every ran
    rcases List.eq_nil_or_concat front with rfl | ⟨earlier, last, rfl⟩
    · obtain rfl : start = source := Option.some.inj ran
      exact initial
    · rw [List.concat_eq_append] at every ran
      obtain ⟨middle, before, taken⟩ := (run_snoc_eq_some step).mp ran
      exact (every_step_snoc.mp every).2 middle source before taken
  induction labels using List.reverseRecOn with
  | nil => exact iff_of_true (every_step_nil _ _) (every_step_nil _ _)
  | append_singleton labels label ih =>
      rw [every_step_snoc, every_step_snoc]
      constructor
      · intro both
        refine ⟨ih.mp both.1, ?_⟩
        intro source target before taken
        exact (exact source label target ⟨labels, before⟩ (holds both.1 before) taken).mp
          (both.2 source target before taken)
      · intro both
        have every := ih.mpr both.1
        refine ⟨every, ?_⟩
        intro source target before taken
        exact (exact source label target ⟨labels, before⟩ (holds every before) taken).mpr
          (both.2 source target before taken)

/-- Whether every step of a run meets a condition that can be decided. -/
def meets (step : State → Label → Option State) (condition : State → Label → Prop)
    [∀ state label, Decidable (condition state label)] : State → List Label → Bool
  | _, [] => true
  | state, label :: rest =>
      decide (condition state label) &&
        match step state label with
        | none => true
        | some next => meets step condition next rest

theorem every_step_of_meets {condition : State → Label → Prop}
    [∀ state label, Decidable (condition state label)] {start : State} {labels : List Label}
    (met : meets step condition start labels = true) :
    EveryStep step (fun source label _ => condition source label) start labels := by
  induction labels generalizing start with
  | nil => exact every_step_nil _ _
  | cons first rest ih =>
      simp only [meets, Bool.and_eq_true, decide_eq_true_eq] at met
      rcases met with ⟨here, later⟩
      intro before label after source target split earlier taken
      cases before with
      | nil =>
          obtain rfl : start = source := Option.some.inj earlier
          rw [← (List.cons.inj split).1]
          exact here
      | cons head front =>
          rcases List.cons.inj split with ⟨rfl, rest_eq⟩
          rcases Option.bind_eq_some_iff.mp earlier with ⟨next, one, ran⟩
          rw [one] at later
          exact ih later front label after source target rest_eq ran taken

end Library.Execution
