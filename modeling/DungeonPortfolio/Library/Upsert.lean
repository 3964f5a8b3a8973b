import Mathlib.Data.List.Basic

/-!
# Rows under a unique key

A table is a list of rows. Rows with the same key are told apart by nothing, so a
unique key means that no two rows of the list are alike. `upsert` changes the row
with a given key or appends a new one. Keys are given by the test that a row has
to pass, so they may be equal up to any equivalence.
-/

namespace Library.Upsert

set_option autoImplicit false

variable {Row : Type*}

/-- Change the first row that passes the test, append a row if there is none. -/
def upsert (test : Row → Bool) (change : Row → Row) (fresh : Row) : List Row → List Row
  | [] => [fresh]
  | row :: rest =>
      if test row then change row :: rest else row :: upsert test change fresh rest

variable {test other : Row → Bool} {change : Row → Row} {fresh : Row}

theorem find_upsert_same (passes : test fresh = true)
    (stays : ∀ row, test row = true → test (change row) = true) (rows : List Row) :
    (upsert test change fresh rows).find? test =
      some (((rows.find? test).map change).getD fresh) := by
  induction rows with
  | nil => simp [upsert, passes]
  | cons row rest ih =>
      cases here : test row with
      | true => simp [upsert, here, stays row here]
      | false =>
          have skipped : (row :: rest).find? test = rest.find? test := by
            rw [List.find?_cons, here]
          rw [upsert, here, skipped, ← ih]
          simp [here]

theorem find_upsert_other (apart : other fresh = false)
    (stays : ∀ row, test row = true → other row = false ∧ other (change row) = false)
    (rows : List Row) :
    (upsert test change fresh rows).find? other = rows.find? other := by
  induction rows with
  | nil => simp [upsert, apart]
  | cons row rest ih =>
      cases here : test row with
      | true =>
          have both := stays row here
          simp [upsert, here, both.1, both.2]
      | false =>
          rw [upsert, here]
          simp only [Bool.false_eq_true, if_false, List.find?_cons, ih]

theorem filter_upsert_other (apart : other fresh = false)
    (stays : ∀ row, test row = true → other row = false ∧ other (change row) = false)
    (rows : List Row) :
    (upsert test change fresh rows).filter other = rows.filter other := by
  induction rows with
  | nil => simp [upsert, apart]
  | cons row rest ih =>
      cases here : test row with
      | true =>
          have both := stays row here
          simp [upsert, here, both.1, both.2]
      | false =>
          rw [upsert, here]
          simp only [Bool.false_eq_true, if_false, List.filter_cons, ih]

theorem mem_upsert {rows : List Row} {found : Row}
    (member : found ∈ upsert test change fresh rows) :
    found = fresh ∨ found ∈ rows ∨ ∃ row ∈ rows, test row = true ∧ found = change row := by
  induction rows with
  | nil => exact Or.inl (List.mem_singleton.mp member)
  | cons row rest ih =>
      cases here : test row with
      | true =>
          rw [upsert, here] at member
          rcases List.mem_cons.mp member with rfl | later
          · exact Or.inr (Or.inr ⟨row, List.mem_cons_self, here, rfl⟩)
          · exact Or.inr (Or.inl (List.mem_cons_of_mem row later))
      | false =>
          rw [upsert, here] at member
          rcases List.mem_cons.mp member with rfl | later
          · exact Or.inr (Or.inl List.mem_cons_self)
          · rcases ih later with new | old | ⟨before, there, passes, changed⟩
            · exact Or.inl new
            · exact Or.inr (Or.inl (List.mem_cons_of_mem row old))
            · exact Or.inr (Or.inr ⟨before, List.mem_cons_of_mem row there, passes, changed⟩)

theorem upsert_all (property : Row → Prop) {rows : List Row} (all : ∀ row ∈ rows, property row)
    (new : property fresh) (keeps : ∀ row, property row → property (change row)) :
    ∀ row ∈ upsert test change fresh rows, property row := by
  intro row member
  rcases mem_upsert member with rfl | old | ⟨before, there, _, rfl⟩
  · exact new
  · exact all row old
  · exact keeps before (all before there)

/-- What a change leaves alone stays, in its place, and a new row comes last. -/
theorem upsert_keys {Key : Type} (key : Row → Key) (keeps : ∀ row, key (change row) = key row)
    (rows : List Row) : rows.map key <+: (upsert test change fresh rows).map key := by
  induction rows with
  | nil => exact List.nil_prefix
  | cons row rest ih =>
      cases here : test row with
      | false =>
          simp only [upsert, here, Bool.false_eq_true, if_false, List.map_cons]
          exact List.prefix_cons_inj _ |>.mpr ih
      | true =>
          simp only [upsert, here, if_true, List.map_cons, keeps]
          exact List.prefix_refl _

def Unique (alike : Row → Row → Bool) (rows : List Row) : Prop :=
  rows.Pairwise fun first second => alike first second = false

theorem unique_append {alike : Row → Row → Bool} {rows : List Row} {fresh : Row}
    (unique : Unique alike rows) (apart : ∀ row ∈ rows, alike row fresh = false) :
    Unique alike (rows ++ [fresh]) := by
  apply List.pairwise_append.mpr
  refine ⟨unique, List.pairwise_singleton _ _, ?_⟩
  intro row member last final
  rw [List.mem_singleton.mp final]
  exact apart row member

/-- A change that keeps the key keeps keys unique, and the new row has a key of
its own because no row passes the test. -/
theorem unique_upsert {alike : Row → Row → Bool} {rows : List Row}
    (unique : Unique alike rows)
    (keeps : ∀ row other, test row = true → alike (change row) other = alike row other ∧
      alike other (change row) = alike other row)
    (tells : ∀ row, test row = false → alike row fresh = false) :
    Unique alike (upsert test change fresh rows) := by
  induction rows with
  | nil => exact List.pairwise_singleton _ _
  | cons row rest ih =>
      rcases List.pairwise_cons.mp unique with ⟨first, later⟩
      cases here : test row with
      | true =>
          simp only [upsert, here, if_true]
          apply List.pairwise_cons.mpr
          refine ⟨?_, later⟩
          intro second member
          rw [(keeps row second here).1]
          exact first second member
      | false =>
          simp only [upsert, here, Bool.false_eq_true, if_false]
          apply List.pairwise_cons.mpr
          refine ⟨?_, ih later⟩
          intro second member
          rcases mem_upsert member with rfl | old | ⟨before, there, passes, rfl⟩
          · exact tells row here
          · exact first second old
          · rw [(keeps before row passes).2]
            exact first before there

/-- Under a unique key a row that passes the test is the one that is found. -/
theorem find_of_mem {alike : Row → Row → Bool} {rows : List Row} {row : Row}
    (unique : Unique alike rows)
    (same : ∀ first second, test first = true → test second = true → alike first second = true)
    (member : row ∈ rows) (passes : test row = true) : rows.find? test = some row := by
  induction rows with
  | nil => cases member
  | cons head rest ih =>
      rcases List.pairwise_cons.mp unique with ⟨first, later⟩
      rcases List.mem_cons.mp member with rfl | there
      · simp [passes]
      · cases here : test head with
        | true =>
            have apart := first row there
            rw [same head row here passes] at apart
            cases apart
        | false =>
            rw [List.find?_cons, here]
            exact ih later there

end Library.Upsert
