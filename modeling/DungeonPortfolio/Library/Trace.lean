import Mathlib.Data.List.Induction

/-!
# Properties of the events of a trace

`EveryEvent holds trace` says of each event of a trace that it stands in the
relation `holds` to the events before it. A trace grows at its end, so such a
property is kept by checking the new event only.
-/

namespace Library.Trace

set_option autoImplicit false

variable {Event : Type*}

def EveryEvent (holds : List Event → Event → Prop) (trace : List Event) : Prop :=
  ∀ before event after, trace = before ++ event :: after → holds before event

theorem every_event_nil (holds : List Event → Event → Prop) : EveryEvent holds [] := by
  intro before event after split
  simp at split

theorem every_event_snoc {holds : List Event → Event → Prop} {trace : List Event}
    {last : Event} :
    EveryEvent holds (trace ++ [last]) ↔ EveryEvent holds trace ∧ holds trace last := by
  constructor
  · intro every
    constructor
    · intro before event after split
      apply every before event (after ++ [last])
      rw [split]
      simp
    · exact every trace last [] rfl
  · intro both before event after split
    rcases List.eq_nil_or_concat after with rfl | ⟨front, final, rfl⟩
    · have parts := List.append_inj' split rfl
      have same := List.cons.inj parts.2
      rw [← parts.1, ← same.1]
      exact both.2
    · rw [List.concat_eq_append, ← List.cons_append, ← List.append_assoc] at split
      have parts := List.append_inj' split rfl
      exact both.1 before event front parts.1

theorem every_event_append {holds : List Event → Event → Prop} {trace events : List Event}
    (every : EveryEvent holds trace) (fine : ∀ event ∈ events, ∀ before, holds before event) :
    EveryEvent holds (trace ++ events) := by
  induction events using List.reverseRecOn with
  | nil =>
      rw [List.append_nil]
      exact every
  | append_singleton front last ih =>
      rw [← List.append_assoc, every_event_snoc]
      constructor
      · apply ih
        intro event member
        exact fine event (List.mem_append_left _ member)
      · exact fine last (List.mem_append_right _ (List.mem_singleton_self last)) _

end Library.Trace
