import DungeonPortfolio.Library.Execution

/-!
# Simulations

A concrete system is followed by an abstract one: every step out of related
states is matched by a run of the abstract system into related states again, so
a whole run is matched by a run.
-/

namespace Library.Simulation

open Library.Execution

set_option autoImplicit false

variable {State Label Abstract Move : Type*}
variable {step : State → Label → Option State} {move : Abstract → Move → Option Abstract}

/-- The steps with allowed labels are matched by runs of fitting moves. -/
def Simulates (step : State → Label → Option State) (move : Abstract → Move → Option Abstract)
    (allowed : Label → Prop) (fitting : Move → Prop) (related : State → Abstract → Prop) : Prop :=
  ∀ source label target shadow, related source shadow → allowed label →
    step source label = some target → ∃ moves later, run move shadow moves = some later ∧
      (∀ each ∈ moves, fitting each) ∧ related target later

variable {allowed : Label → Prop} {fitting : Move → Prop} {related : State → Abstract → Prop}

theorem Simulates.run (simulates : Simulates step move allowed fitting related) {start target : State}
    {origin : Abstract} {labels : List Label} (initial : related start origin)
    (all : ∀ label ∈ labels, allowed label) (ran : run step start labels = some target) :
    ∃ moves shadow, Execution.run move origin moves = some shadow ∧
      (∀ each ∈ moves, fitting each) ∧ related target shadow := by
  induction labels using List.reverseRecOn generalizing target with
  | nil =>
      obtain rfl : start = target := Option.some.inj ran
      exact ⟨[], origin, rfl, nofun, initial⟩
  | append_singleton labels label ih =>
      obtain ⟨source, earlier, taken⟩ := (run_snoc_eq_some step).mp ran
      rcases ih (fun other listed => all other (List.mem_append_left _ listed)) earlier with
        ⟨moves, shadow, followed, fit, between⟩
      have last := all label (List.mem_append_right _ (List.mem_singleton_self label))
      rcases simulates source label target shadow between last taken with
        ⟨more, later, continued, fits, after⟩
      refine ⟨moves ++ more, later, ?_, ?_, after⟩
      · rw [run_append, followed]
        exact continued
      · intro each listed
        rcases List.mem_append.mp listed with front | back
        · exact fit each front
        · exact fits each back

variable {Event : Type*}

/-- Where each step records at most one event, what had been recorded up to some
moment is all that a state of the run had recorded. -/
theorem recorded_before (recorded : State → List Event)
    (single : ∀ source label target, step source label = some target →
      ∃ event : Option Event, recorded target = recorded source ++ event.toList)
    {start target : State} {labels : List Label} (empty : recorded start = [])
    (ran : run step start labels = some target) {front back : List Event}
    (split : recorded target = front ++ back) :
    ∃ before after middle, labels = before ++ after ∧ run step start before = some middle ∧
      recorded middle = front := by
  induction labels using List.reverseRecOn generalizing target back with
  | nil =>
      obtain rfl : start = target := Option.some.inj ran
      rw [empty] at split
      refine ⟨[], [], start, rfl, rfl, ?_⟩
      rw [empty, (List.append_eq_nil_iff.mp split.symm).1]
  | append_singleton labels label ih =>
      obtain ⟨source, earlier, taken⟩ := (run_snoc_eq_some step).mp ran
      rcases List.eq_nil_or_concat back with rfl | ⟨rest, last, rfl⟩
      · refine ⟨labels ++ [label], [], target, (List.append_nil _).symm, ran, ?_⟩
        rw [split, List.append_nil]
      · have shorter : ∃ fewer, recorded source = front ++ fewer := by
          rcases single source label target taken with ⟨event, grown⟩
          rw [split, List.concat_eq_append] at grown
          cases event with
          | none =>
              refine ⟨rest ++ [last], ?_⟩
              rw [grown]
              exact (List.append_nil _).symm
          | some event =>
              rw [← List.append_assoc] at grown
              exact ⟨rest, (List.append_inj' grown rfl).1.symm⟩
        rcases shorter with ⟨fewer, less⟩
        rcases ih earlier less with ⟨before, after, middle, rfl, reached, same⟩
        exact ⟨before, after ++ [label], middle, List.append_assoc _ _ _, reached, same⟩

end Library.Simulation
