import Mathlib.Data.List.Induction

/-!
# The last write in a history

Each entry of a history may write a value; what a history leaves is the value of
the last entry that writes one.
-/

namespace Library.Replay

set_option autoImplicit false

variable {Entry Value : Type*}

def last (writes : Entry → Option Value) (entries : List Entry) : Option Value :=
  entries.foldl (fun before entry => (writes entry).or before) none

variable {writes : Entry → Option Value}

@[simp] theorem last_nil : last writes [] = none := rfl

theorem last_append_one (entries : List Entry) (entry : Entry) :
    last writes (entries ++ [entry]) = (writes entry).or (last writes entries) := by
  simp only [last, List.foldl_append, List.foldl_cons, List.foldl_nil]

theorem last_skip {entry : Entry} (skips : writes entry = none) (entries : List Entry) :
    last writes (entries ++ [entry]) = last writes entries := by
  rw [last_append_one, skips, Option.none_or]

theorem last_written {entry : Entry} {value : Value} (written : writes entry = some value)
    (entries : List Entry) : last writes (entries ++ [entry]) = some value := by
  rw [last_append_one, written, Option.some_or]

/-- Behind a write, the last value is its own or that of a later one. -/
theorem last_since {entry : Entry} {value : Value} (written : writes entry = some value)
    (front rest : List Entry) : ∃ writer ∈ entry :: rest, ∃ final, writes writer = some final ∧
      last writes (front ++ entry :: rest) = some final := by
  induction rest using List.reverseRecOn with
  | nil => exact ⟨entry, List.mem_cons_self, value, written, last_written written front⟩
  | append_singleton rest next ih =>
      have split : front ++ entry :: (rest ++ [next]) = (front ++ entry :: rest) ++ [next] := by
        rw [List.append_assoc, List.cons_append]
      rw [split]
      cases here : writes next with
      | some final =>
          exact ⟨next, List.mem_cons_of_mem _ (List.mem_append_right _ (List.mem_singleton_self _)),
            final, here, last_written here _⟩
      | none =>
          rcases ih with ⟨writer, listed, final, writes_, same⟩
          refine ⟨writer, ?_, final, writes_, (last_skip here _).trans same⟩
          rw [← List.cons_append]
          exact List.mem_append_left _ listed

theorem last_eq_none_iff {entries : List Entry} :
    last writes entries = none ↔ ∀ entry ∈ entries, writes entry = none := by
  induction entries using List.reverseRecOn with
  | nil => simp
  | append_singleton entries entry ih =>
      rw [last_append_one, Option.or_eq_none_iff, ih]
      simp [or_imp, forall_and, and_comm]

end Library.Replay
