import Mathlib.Data.Finset.Union
import Mathlib.Data.List.Sort

/-!
# Hash sets with an arbitrary iteration order

A hash set is a `Finset`; iterating over it visits every element once in an
order the program does not control. An `IterationOrder` is one such choice, so
a statement for every `IterationOrder` covers every hash function, bucket count
and insertion history.
-/

namespace Library.HashSet

set_option autoImplicit false

variable {Item : Type*}

structure IterationOrder (Item : Type*) where
  list : Finset Item → List Item
  nodup : ∀ items, (list items).Nodup
  mem_list : ∀ items item, item ∈ list items ↔ item ∈ items

namespace IterationOrder

attribute [simp] IterationOrder.mem_list

def ascending [LinearOrder Item] : IterationOrder Item where
  list items := Quot.liftOn items.val (List.insertionSort (· ≤ ·)) fun first second same =>
    ((List.perm_insertionSort _ first).trans
      (same.trans (List.perm_insertionSort _ second).symm)).eq_of_pairwise'
        (List.pairwise_insertionSort _ first) (List.pairwise_insertionSort _ second)
  nodup items := by
    obtain ⟨values, distinct⟩ := items
    induction values using Quot.inductionOn with
    | h values => exact (List.perm_insertionSort _ values).nodup_iff.mpr distinct
  mem_list items item := by
    obtain ⟨values, distinct⟩ := items
    induction values using Quot.inductionOn with
    | h values => exact List.mem_insertionSort _

/-- What one receiver sees of a loop over the set: its own visit, if it is a member. -/
theorem filter_list [DecidableEq Item] (order : IterationOrder Item) (items : Finset Item)
    (item : Item) :
    (order.list items).filter (fun visited => decide (visited = item)) =
      if item ∈ items then [item] else [] := by
  have visits : (order.list items).count item = if item ∈ items then 1 else 0 := by
    rw [(order.nodup items).count]
    simp only [mem_list]
  have alike : (order.list items).filter (fun visited => decide (visited = item)) =
      List.replicate ((order.list items).count item) item := by
    rw [← List.filter_eq]
  rw [alike, visits]
  split <;> rfl

end IterationOrder

/-- One turn of a loop that looks a key up and adds the set it finds. -/
def collect [DecidableEq Item] {Key : Type*} (find : Key → Option (Finset Item))
    (found : Finset Item) (key : Key) : Finset Item :=
  match find key with
  | none => found
  | some items => found ∪ items

theorem mem_collect [DecidableEq Item] {Key : Type*} (find : Key → Option (Finset Item))
    (found : Finset Item) (key : Key) (item : Item) :
    item ∈ collect find found key ↔
      item ∈ found ∨ ∃ items, find key = some items ∧ item ∈ items := by
  unfold collect
  cases lookup : find key with
  | none => simp
  | some items => simp

/-- A loop whose body adds to the set exactly the items with a property of the
current key ends with the items that have it for some key. -/
theorem mem_foldl_of_grow {Key : Type*} (body : Finset Item → Key → Finset Item) (item : Item)
    (adds : Key → Prop)
    (grow : ∀ found key, item ∈ body found key ↔ item ∈ found ∨ adds key)
    (keys : List Key) (found : Finset Item) :
    item ∈ keys.foldl body found ↔ item ∈ found ∨ ∃ key ∈ keys, adds key := by
  induction keys generalizing found with
  | nil => simp
  | cons key keys ih =>
      rw [List.foldl_cons, ih, grow]
      simp only [List.mem_cons, exists_eq_or_imp, or_assoc]

end Library.HashSet
