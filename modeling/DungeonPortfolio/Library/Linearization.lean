import Mathlib.Data.List.Nodup

/-!
# Orders that respect real time

Operations are invoked, act at some later moment and respond after it. The order
in which they act is extended at its end only, so whatever has responded before
another operation is invoked comes before it.
-/

namespace Library.Linearization

set_option autoImplicit false

variable {Id Event : Type*}

def Precedes (order : List Id) (first second : Id) : Prop :=
  ∃ front back, order = front ++ back ∧ first ∈ front ∧ second ∈ back

theorem Precedes.append {order : List Id} {first second : Id}
    (precedes : Precedes order first second) (more : List Id) :
    Precedes (order ++ more) first second := by
  rcases precedes with ⟨front, back, rfl, before, behind⟩
  exact ⟨front, back ++ more, List.append_assoc _ _ _, before, List.mem_append_left _ behind⟩

theorem precedes_last {order : List Id} {first : Id} (earlier : first ∈ order) (last : Id) :
    Precedes (order ++ [last]) first last :=
  ⟨order, [last], rfl, earlier, List.mem_singleton_self last⟩

/-- Along the history, responses come before later invocations in the order. -/
def Respects (invoked responded : Event → Option Id) (history : List Event)
    (order : List Id) : Prop :=
  ∀ front back first second, history = front ++ back → first ∈ front.filterMap responded →
    second ∈ back.filterMap invoked → second ∈ order → Precedes order first second

variable {invoked responded : Event → Option Id} {history : List Event} {order : List Id}

theorem respects_nil (order : List Id) : Respects invoked responded [] order := by
  intro front back first second split responds
  rw [(List.append_eq_nil_iff.mp split.symm).1] at responds
  cases responds

theorem Respects.event (respects : Respects invoked responded history order) {event : Event}
    (fresh : ∀ id, invoked event = some id → id ∉ order) :
    Respects invoked responded (history ++ [event]) order := by
  intro front back first second split responds invokes acted
  rcases List.eq_nil_or_concat back with rfl | ⟨rest, last, rfl⟩
  · cases invokes
  · rw [List.concat_eq_append] at split invokes
    rw [← List.append_assoc] at split
    rcases List.append_inj' split rfl with ⟨earlier, same⟩
    rw [List.filterMap_append, List.mem_append] at invokes
    rcases invokes with before | now
    · exact respects front rest first second earlier responds before acted
    · rw [← same] at now
      rcases List.mem_filterMap.mp now with ⟨other, listed, invokes⟩
      rw [List.mem_singleton.mp listed] at invokes
      exact absurd acted (fresh second invokes)

/-- One more operation acts; all that have responded have acted. -/
theorem Respects.act (respects : Respects invoked responded history order)
    (acted : ∀ id ∈ history.filterMap responded, id ∈ order) (last : Id) :
    Respects invoked responded history (order ++ [last]) := by
  intro front back first second split responds invokes listed
  rcases List.mem_append.mp listed with earlier | now
  · exact (respects front back first second split responds invokes earlier).append [last]
  · rw [List.mem_singleton.mp now]
    apply precedes_last
    apply acted
    rw [split, List.filterMap_append]
    exact List.mem_append_left _ responds

theorem Precedes.split {Operation : Type*} {identify : Operation → Id} {operations : List Operation}
    (distinct : (operations.map identify).Nodup) {first second : Operation}
    (precedes : Precedes (operations.map identify) (identify first) (identify second))
    (one : first ∈ operations) (other : second ∈ operations) :
    ∃ front middle back, operations = front ++ first :: (middle ++ second :: back) := by
  rcases precedes with ⟨before, behind, parts, early, late⟩
  rcases List.map_eq_append_iff.mp parts with ⟨earlier, later, rfl, rfl, rfl⟩
  have here : first ∈ earlier := by
    rcases List.mem_map.mp early with ⟨same, listed, named⟩
    rw [← List.inj_on_of_nodup_map distinct (List.mem_append_left _ listed) one named]
    exact listed
  have there : second ∈ later := by
    rcases List.mem_map.mp late with ⟨same, listed, named⟩
    rw [← List.inj_on_of_nodup_map distinct (List.mem_append_right _ listed) other named]
    exact listed
  rcases List.append_of_mem here with ⟨front, left, rfl⟩
  rcases List.append_of_mem there with ⟨right, back, rfl⟩
  refine ⟨front, left ++ right, back, ?_⟩
  simp only [List.append_assoc, List.cons_append]

theorem Precedes.behind {Operation : Type*} {identify : Operation → Id}
    {operations front rest : List Operation} (distinct : (operations.map identify).Nodup)
    {first second : Operation}
    (precedes : Precedes (operations.map identify) (identify first) (identify second))
    (parts : operations = front ++ first :: rest) (other : second ∈ operations) :
    ∃ middle back, rest = middle ++ second :: back := by
  have one : first ∈ operations := by
    rw [parts]
    exact List.mem_append_right _ List.mem_cons_self
  rcases precedes.split distinct one other with ⟨before, middle, back, split⟩
  have nodup : (front ++ first :: rest).Nodup := parts ▸ distinct.of_map _
  rcases List.nodup_append.mp nodup with ⟨_, tail, apart⟩
  have unlisted : first ∉ front := fun listed => apart first listed first List.mem_cons_self rfl
  have equal := (List.append_cons_inj_of_notMem unlisted (List.nodup_cons.mp tail).1).mp
    (parts.symm.trans split)
  exact ⟨middle, back, equal.2.2⟩

end Library.Linearization
