import Mathlib.Data.List.Nodup

/-!
# Issued, settled and outstanding items

Items are issued one by one, travel through some pipeline and are settled. The
accounts balance when what was issued is what was settled and what is still
outstanding, each as often. If in addition the items carry distinct keys, then
what is outstanding is determined by the keys that have been settled.
-/

namespace Library.Ledger

set_option autoImplicit false

variable {Item : Type*}

def Balanced (issued settled outstanding : List Item) : Prop :=
  issued.Perm (settled ++ outstanding)

theorem balanced_nil : Balanced ([] : List Item) [] [] := List.Perm.refl []

theorem Balanced.reorder {issued settled outstanding other : List Item}
    (balanced : Balanced issued settled outstanding) (same : outstanding.Perm other) :
    Balanced issued settled other :=
  balanced.trans (same.append_left settled)

theorem Balanced.issue {issued settled outstanding other : List Item} {item : Item}
    (balanced : Balanced issued settled outstanding) (added : (item :: outstanding).Perm other) :
    Balanced (issued ++ [item]) settled other := by
  have first : (issued ++ [item]).Perm (settled ++ outstanding ++ [item]) :=
    balanced.append_right [item]
  rw [List.append_assoc] at first
  have last : (outstanding ++ [item]).Perm other :=
    (List.perm_append_singleton item outstanding).trans added
  exact first.trans (last.append_left settled)

theorem Balanced.settle {issued settled outstanding other : List Item} {item : Item}
    (balanced : Balanced issued settled outstanding) (removed : outstanding.Perm (item :: other)) :
    Balanced issued (settled ++ [item]) other := by
  have moved : (settled ++ outstanding).Perm (settled ++ [item] ++ other) := by
    rw [List.append_assoc]
    exact removed.append_left settled
  exact balanced.trans moved

theorem Balanced.settled_issued {issued settled outstanding : List Item} {item : Item}
    (balanced : Balanced issued settled outstanding) (member : item ∈ settled) : item ∈ issued :=
  balanced.mem_iff.mpr (List.mem_append_left _ member)

theorem Balanced.outstanding_issued {issued settled outstanding : List Item} {item : Item}
    (balanced : Balanced issued settled outstanding) (member : item ∈ outstanding) :
    item ∈ issued :=
  balanced.mem_iff.mpr (List.mem_append_right _ member)

variable {Key : Type*} (key : Item → Key)

theorem Balanced.distinct {issued settled outstanding : List Item}
    (balanced : Balanced issued settled outstanding) (distinct : (issued.map key).Nodup) :
    (settled.map key ++ outstanding.map key).Nodup := by
  rw [← List.map_append]
  exact (balanced.map key).nodup_iff.mp distinct

theorem Balanced.unsettled {issued settled outstanding : List Item} {item : Item}
    (balanced : Balanced issued settled outstanding) (distinct : (issued.map key).Nodup)
    (member : item ∈ outstanding) : key item ∉ settled.map key := by
  have parts := List.nodup_append.mp (balanced.distinct key distinct)
  intro settledToo
  exact parts.2.2 _ settledToo _ (List.mem_map_of_mem member) rfl

/-- With distinct keys the outstanding items are those whose key is not settled. -/
theorem Balanced.outstanding_perm [DecidableEq Key] {issued settled outstanding : List Item}
    (balanced : Balanced issued settled outstanding) (distinct : (issued.map key).Nodup) :
    outstanding.Perm (issued.filter fun item => key item ∉ settled.map key) := by
  have split := balanced.filter fun item => key item ∉ settled.map key
  rw [List.filter_append] at split
  have gone : (settled.filter fun item => key item ∉ settled.map key) = [] := by
    rw [List.filter_eq_nil_iff]
    intro item member
    simpa using ⟨item, member, rfl⟩
  have stay : (outstanding.filter fun item => key item ∉ settled.map key) = outstanding := by
    rw [List.filter_eq_self]
    intro item member
    simpa using balanced.unsettled key distinct member
  rw [gone, stay, List.nil_append] at split
  exact split.symm

theorem same_of_key {items : List Item} (distinct : (items.map key).Nodup) {first second : Item}
    (one : first ∈ items) (other : second ∈ items) (same : key first = key second) :
    first = second :=
  List.inj_on_of_nodup_map distinct one other same

end Library.Ledger
