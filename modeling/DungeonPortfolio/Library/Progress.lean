import DungeonPortfolio.Library.Execution
import Mathlib.Algebra.BigOperators.Group.List.Basic
import Mathlib.Algebra.Ring.Nat

/-!
# Work that runs out

The size of a state bounds the work that is left in it. A step pays what it costs
out of the size, and new work adds to it, so what a run can cost is bounded by
the work it has been given; and where a state that is not at rest can always take
a step that costs, a run to rest exists.
-/

namespace Library.Progress

open Library.Execution

set_option autoImplicit false

variable {State Label : Type*} {step : State → Label → Option State}
variable {size : State → Nat → Prop} {cost gain : Label → Nat}

/-- Every step that the guard lets through is paid out of the size of the state and
the work that it brings. -/
def PaysWithin (step : State → Label → Option State) (guard : State → Label → State → Prop)
    (size : State → Nat → Prop) (cost gain : Label → Nat) : Prop :=
  ∀ source label target before, guard source label target → size source before →
    step source label = some target →
      ∃ after, size target after ∧ after + cost label ≤ before + gain label

def Pays (step : State → Label → Option State) (size : State → Nat → Prop)
    (cost gain : Label → Nat) : Prop :=
  ∀ source label target before, size source before → step source label = some target →
    ∃ after, size target after ∧ after + cost label ≤ before + gain label

theorem run_cost_within {guard : State → Label → State → Prop}
    (pays : PaysWithin step guard size cost gain) {start target : State} {labels : List Label}
    {before : Nat} (initial : size start before) (every : EveryStep step guard start labels)
    (ran : run step start labels = some target) :
    ∃ after, size target after ∧
      after + (labels.map cost).sum ≤ before + (labels.map gain).sum := by
  induction labels using List.reverseRecOn generalizing target with
  | nil =>
      obtain rfl : start = target := Option.some.inj ran
      exact ⟨before, initial, Nat.le_refl _⟩
  | append_singleton labels label ih =>
      obtain ⟨source, earlier, taken⟩ := (run_snoc_eq_some step).mp ran
      obtain ⟨front, last⟩ := every_step_snoc.mp every
      rcases ih front earlier with ⟨middle, sized, paid⟩
      rcases pays source label target middle (last source target earlier taken) sized taken with
        ⟨after, held, pays_now⟩
      refine ⟨after, held, ?_⟩
      rw [List.map_append, List.map_append, List.sum_append, List.sum_append, List.map_singleton,
        List.map_singleton, List.sum_singleton, List.sum_singleton]
      omega

theorem run_cost (pays : Pays step size cost gain) {start target : State} {labels : List Label}
    {before : Nat} (initial : size start before) (ran : run step start labels = some target) :
    ∃ after, size target after ∧
      after + (labels.map cost).sum ≤ before + (labels.map gain).sum :=
  @run_cost_within _ _ _ _ _ _ (fun _ _ _ => True)
    (fun source label target before _ => pays source label target before) _ _ _ _ initial
    (fun _ _ _ _ _ _ _ _ => trivial) ran

/-- Where a state that is not at rest can take a chosen step, and these make it
smaller, the chosen steps lead to rest. -/
theorem run_to_rest {invariant rest : State → Prop} {chosen : State → Label → Prop}
    (moves : ∀ state, invariant state → ¬rest state →
      ∃ label next, chosen state label ∧ step state label = some next)
    (kept : ∀ source label target, invariant source → chosen source label →
      step source label = some target → invariant target)
    (drops : ∀ source label target before, invariant source → chosen source label →
      size source before → step source label = some target → ∃ after < before, size target after)
    {before : Nat} {start : State} (holds : invariant start) (sized : size start before) :
    ∃ labels target, run step start labels = some target ∧ rest target ∧ labels.length ≤ before ∧
      EveryStep step (fun source label _ => chosen source label) start labels := by
  induction before using Nat.strong_induction_on generalizing start with
  | _ before ih =>
      by_cases resting : rest start
      · exact ⟨[], start, rfl, resting, Nat.zero_le _, every_step_nil _ _⟩
      · rcases moves start holds resting with ⟨label, next, chooses, taken⟩
        rcases drops start label next before holds chooses sized taken with ⟨after, lower, smaller⟩
        rcases ih after lower (kept start label next holds chooses taken) smaller with
          ⟨labels, target, ran, rests, short, every⟩
        refine ⟨label :: labels, target, Option.bind_eq_some_iff.mpr ⟨next, taken, ran⟩, rests, ?_, ?_⟩
        · rw [List.length_cons]
          omega
        · intro front middle back source last split earlier now
          cases front with
          | nil =>
              obtain rfl : start = source := Option.some.inj earlier
              rw [← (List.cons.inj split).1]
              exact chooses
          | cons head front =>
              rcases List.cons.inj split with ⟨rfl, parts⟩
              rcases Option.bind_eq_some_iff.mp earlier with ⟨second, one, ahead⟩
              rw [taken] at one
              obtain rfl := Option.some.inj one
              exact every front middle back source last parts ahead now

/-- Where the labels of a stream can be followed one after the other, and each makes a
state that is not at rest smaller, following the stream leads to rest. -/
theorem stream_to_rest {invariant rest : State → Prop} {left : State → Nat} {stream : Nat → Label}
    (goes : ∀ index state, invariant state → ¬rest state →
      ∃ next, step state (stream index) = some next ∧ invariant next ∧ left next < left state)
    {start : State} (holds : invariant start) :
    ∃ count target, run step start ((List.range count).map stream) = some target ∧
      rest target ∧ invariant target ∧ count ≤ left start := by
  induction amount : left start using Nat.strong_induction_on generalizing start stream with
  | _ amount ih =>
      by_cases resting : rest start
      · exact ⟨0, start, rfl, resting, holds, Nat.zero_le _⟩
      · rcases goes 0 start holds resting with ⟨next, taken, still, less⟩
        rw [amount] at less
        rcases ih (left next) less (fun index => goes (index + 1)) still rfl with
          ⟨count, target, ran, rests, kept, short⟩
        refine ⟨count + 1, target, ?_, rests, kept, by omega⟩
        rw [List.range_succ_eq_map, List.map_cons, List.map_map]
        exact Option.bind_eq_some_iff.mpr ⟨next, taken, ran⟩

/-- A run from one state to another all of whose steps are chosen. -/
def Leads (step : State → Label → Option State) (chosen : State → Label → Prop)
    (source target : State) : Prop :=
  ∃ labels, run step source labels = some target ∧
    EveryStep step (fun state label _ => chosen state label) source labels

variable {chosen : State → Label → Prop}

theorem leads_refl (state : State) : Leads step chosen state state :=
  ⟨[], rfl, every_step_nil _ _⟩

theorem Leads.next {source middle target : State} {label : Label}
    (leads : Leads step chosen source middle) (chooses : chosen middle label)
    (taken : step middle label = some target) : Leads step chosen source target := by
  rcases leads with ⟨labels, ran, every⟩
  refine ⟨labels ++ [label], (run_snoc_eq_some step).mpr ⟨middle, ran, taken⟩, ?_⟩
  refine every_step_snoc.mpr ⟨every, ?_⟩
  intro state after earlier _
  obtain rfl := Option.some.inj (ran.symm.trans earlier)
  exact chooses

theorem Leads.trans {source middle target : State} (first : Leads step chosen source middle)
    (second : Leads step chosen middle target) : Leads step chosen source target := by
  rcases second with ⟨labels, ran, every⟩
  induction labels using List.reverseRecOn generalizing target with
  | nil =>
      obtain rfl := Option.some.inj ran
      exact first
  | append_singleton labels label ih =>
      obtain ⟨state, earlier, taken⟩ := (run_snoc_eq_some step).mp ran
      rcases every_step_snoc.mp every with ⟨before, last⟩
      exact (ih earlier before).next (last state target earlier taken) taken

theorem Leads.mono {other : State → Label → Prop} {source target : State}
    (leads : Leads step chosen source target)
    (weaker : ∀ state label, chosen state label → other state label) :
    Leads step other source target := by
  rcases leads with ⟨labels, ran, every⟩
  refine ⟨labels, ran, ?_⟩
  intro front label back state next split earlier taken
  exact weaker state label (every front label back state next split earlier taken)

theorem Leads.invariant {invariant : State → Prop} {source target : State}
    (leads : Leads step chosen source target) (initial : invariant source)
    (preserved : ∀ state label next, invariant state → chosen state label →
      step state label = some next → invariant next) : invariant target := by
  rcases leads with ⟨labels, ran, every⟩
  exact guarded_invariant initial preserved every ran

/-- Where chosen steps can be taken and make the state smaller, they lead to rest. -/
theorem leads_to_rest {invariant rest : State → Prop}
    (moves : ∀ state, invariant state → ¬rest state →
      ∃ label next, chosen state label ∧ step state label = some next)
    (kept : ∀ source label target, invariant source → chosen source label →
      step source label = some target → invariant target)
    (drops : ∀ source label target before, invariant source → chosen source label →
      size source before → step source label = some target → ∃ after < before, size target after)
    {before : Nat} {start : State} (holds : invariant start) (sized : size start before) :
    ∃ target, Leads step chosen start target ∧ rest target ∧ invariant target := by
  rcases run_to_rest moves kept drops holds sized with ⟨labels, target, ran, rests, _, every⟩
  exact ⟨target, ⟨labels, ran, every⟩, rests, guarded_invariant holds kept every ran⟩

end Library.Progress
