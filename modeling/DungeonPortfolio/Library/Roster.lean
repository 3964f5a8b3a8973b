import Mathlib.Data.Finset.Basic

/-!
# A roster kept under names that need not be unique

Somebody keeps a list of entries, one for each member of a set, and is told of
changes by name only. The first entry of the name is taken out. As long as the
entries that share the name of the member in question are equal, the list stays
the list of the members' entries, in some order.
-/

namespace Library.Roster

set_option autoImplicit false

variable {Member Entry Name : Type*}

/-- The entries of the members, each as often as members have it. -/
def Lists (entries : List Entry) (members : Finset Member) (entry : Member → Entry) : Prop :=
  (entries : Multiset Entry) = members.val.map entry

theorem mem_iff_of_lists {entries : List Entry} {members : Finset Member} {entry : Member → Entry}
    (lists : Lists entries members entry) (item : Entry) :
    item ∈ entries ↔ ∃ member ∈ members, entry member = item := by
  rw [← Multiset.mem_coe, lists, Multiset.mem_map]
  rfl

theorem lists_congr {entries : List Entry} {members : Finset Member} {entry other : Member → Entry}
    (lists : Lists entries members entry) (same : ∀ member ∈ members, entry member = other member) :
    Lists entries members other := by
  rw [Lists, lists]
  exact Multiset.map_congr rfl same

theorem lists_of_nodup {listed : List Member} {members : Finset Member} (distinct : listed.Nodup)
    (same : ∀ member, member ∈ listed ↔ member ∈ members) (entry : Member → Entry) :
    Lists (listed.map entry).reverse members entry := by
  have whole : (listed : Multiset Member) = members.val :=
    (Multiset.Nodup.ext (Multiset.coe_nodup.mpr distinct) members.nodup).mpr same
  rw [Lists, Multiset.coe_reverse, ← Multiset.map_coe, whole]

section

variable [DecidableEq Member]

theorem lists_insert {entries : List Entry} {members : Finset Member} {entry : Member → Entry}
    (lists : Lists entries members entry) {member : Member} (absent : member ∉ members) :
    Lists (entry member :: entries) (insert member members) entry := by
  rw [Lists, Finset.insert_val_of_notMem absent, Multiset.map_cons, ← lists, Multiset.cons_coe]

end

section

variable [DecidableEq Name] (name : Entry → Name)

def drop (called : Name) (entries : List Entry) : List Entry :=
  entries.eraseP fun entry => decide (name entry = called)

def amend (called : Name) (change : Entry → Entry) (entries : List Entry) : List Entry :=
  match entries.find? fun entry => decide (name entry = called) with
  | none => entries
  | some found => change found :: drop name called entries

variable {name}
variable {entries : List Entry} {members : Finset Member} {entry : Member → Entry}
  {member : Member}

/-- The member's namesakes have the member's own entry. -/
def Identified (name : Entry → Name) (members : Finset Member) (entry : Member → Entry)
    (member : Member) : Prop :=
  ∀ other ∈ members, name (entry other) = name (entry member) → entry other = entry member

instance [DecidableEq Entry] : Decidable (Identified name members entry member) :=
  inferInstanceAs (Decidable (∀ other ∈ members, _ → _))

variable (name) in
theorem find_named (lists : Lists entries members entry) (present : member ∈ members) :
    ∃ found, entries.find? (fun item => decide (name item = name (entry member))) = some found ∧
      ∃ other ∈ members, entry other = found ∧ name found = name (entry member) := by
  have listed : entry member ∈ entries := (mem_iff_of_lists lists _).mpr ⟨member, present, rfl⟩
  cases search : entries.find? fun item => decide (name item = name (entry member)) with
  | none =>
      have unnamed := List.find?_eq_none.mp search (entry member) listed
      simp at unnamed
  | some found =>
      have named := List.find?_some search
      obtain ⟨other, here, same⟩ := (mem_iff_of_lists lists found).mp
        (List.mem_of_find?_eq_some search)
      exact ⟨found, rfl, other, here, same, of_decide_eq_true named⟩

theorem cons_drop_perm {called : Name} {found : Entry}
    (search : entries.find? (fun item => decide (name item = called)) = some found) :
    (found :: drop name called entries).Perm entries := by
  obtain ⟨named, front, back, rfl, before⟩ := List.find?_eq_some_iff_append.mp search
  rw [drop, List.eraseP_append_right _ (by simpa using before), List.eraseP_cons_of_pos (by exact named)]
  exact List.perm_middle.symm

/-- What is found under the name of an identified member is its entry. -/
theorem find_identified (lists : Lists entries members entry) (present : member ∈ members)
    (identified : Identified name members entry member) :
    entries.find? (fun item => decide (name item = name (entry member))) = some (entry member) := by
  rcases find_named name lists present with ⟨found, search, other, here, same, named⟩
  rw [← same] at named
  rw [search, ← same, identified other here named]

variable (name) in
theorem lists_amend_idle (lists : Lists entries members entry) (present : member ∈ members)
    (change : Entry → Entry)
    (idle : ∀ other ∈ members, name (entry other) = name (entry member) →
      change (entry other) = entry other) :
    Lists (amend name (name (entry member)) change entries) members entry := by
  rcases find_named name lists present with ⟨found, search, other, here, same, named⟩
  have kept : change found = found := by
    rw [← same] at named ⊢
    exact idle other here named
  rw [amend, search]
  simp only [kept]
  exact (Multiset.coe_eq_coe.mpr (cons_drop_perm search)).trans lists

variable [DecidableEq Member]

theorem lists_drop (lists : Lists entries members entry) (present : member ∈ members)
    (identified : Identified name members entry member) :
    Lists (drop name (name (entry member)) entries) (members.erase member) entry := by
  have search := find_identified lists present identified
  have whole : ((entry member :: drop name (name (entry member)) entries : List Entry) :
      Multiset Entry) = members.val.map entry := (Multiset.coe_eq_coe.mpr (cons_drop_perm search)).trans lists
  rw [← Finset.insert_erase present, Finset.insert_val_of_notMem (Finset.notMem_erase _ _),
    Multiset.map_cons, ← Multiset.cons_coe] at whole
  exact (Multiset.cons_inj_right _).mp whole

theorem lists_amend (lists : Lists entries members entry) (present : member ∈ members)
    (identified : Identified name members entry member) {change : Entry → Entry}
    {after : Member → Entry} (changed : after member = change (entry member))
    (others : ∀ other ∈ members, other ≠ member → after other = entry other) :
    Lists (amend name (name (entry member)) change entries) members after := by
  have search := find_identified lists present identified
  have left : Lists (drop name (name (entry member)) entries) (members.erase member) after := by
    refine lists_congr (lists_drop lists present identified) ?_
    intro kept inside
    exact (others kept (Finset.mem_of_mem_erase inside) (Finset.ne_of_mem_erase inside)).symm
  have put := lists_insert left (Finset.notMem_erase member members)
  rw [Finset.insert_erase present, changed] at put
  rw [amend, search]
  exact put

end

end Library.Roster
