import Mathlib.Data.List.Induction

/-!
# Dialogues

Queries and their replies, one reply to a query and in their order, where the
state that a reply may depend on is made by the earlier queries alone. Whoever
keeps to a dialogue can be told which query a reply belongs to by counting.
-/

namespace Library.Dialogues

set_option autoImplicit false

variable {State Query Reply : Type*}

/-- The queries so far, their replies, and the state that they have made. -/
inductive Dialogue (answers : State → Query → Reply → Prop) (advance : State → Query → State)
    (start : State) : List Query → List Reply → State → Prop
  | opens : Dialogue answers advance start [] [] start
  | next {queries : List Query} {replies : List Reply} {state : State} {query : Query}
      {reply : Reply} (earlier : Dialogue answers advance start queries replies state)
      (answered : answers state query reply) :
      Dialogue answers advance start (queries ++ [query]) (replies ++ [reply]) (advance state query)

namespace Dialogue

variable {answers : State → Query → Reply → Prop} {advance : State → Query → State} {start : State}
variable {queries : List Query} {replies : List Reply} {state : State} {query : Query}

theorem length_eq (dialogue : Dialogue answers advance start queries replies state) :
    replies.length = queries.length := by
  induction dialogue with
  | opens => rfl
  | next _ _ ih => rw [List.length_append, List.length_append, ih, List.length_singleton,
      List.length_singleton]

theorem state_eq (dialogue : Dialogue answers advance start queries replies state) :
    state = queries.foldl advance start := by
  induction dialogue with
  | opens => rfl
  | next _ _ ih => rw [List.foldl_append, ← ih, List.foldl_cons, List.foldl_nil]

theorem last (dialogue : Dialogue answers advance start (queries ++ [query]) replies state) :
    ∃ earlier before reply, Dialogue answers advance start queries earlier before ∧
      replies = earlier ++ [reply] ∧ answers before query reply := by
  generalize whole : queries ++ [query] = all at dialogue
  cases dialogue with
  | opens => exact absurd whole (List.append_ne_nil_of_right_ne_nil _ (List.cons_ne_nil _ _))
  | next earlier answered =>
      rcases List.append_inj' whole rfl with ⟨rfl, same⟩
      cases same
      exact ⟨_, _, _, earlier, rfl, answered⟩

/-- Where replies to one query in one state look alike, two dialogues with the
same queries look alike. -/
theorem agree {Shown : Type*} {view : Reply → Shown}
    (functional : ∀ state query first second, answers state query first →
      answers state query second → view first = view second)
    {others : List Reply} {other : State}
    (one : Dialogue answers advance start queries replies state)
    (two : Dialogue answers advance start queries others other) :
    replies.map view = others.map view := by
  induction queries using List.reverseRecOn generalizing replies others state other with
  | nil =>
      rw [List.eq_nil_of_length_eq_zero one.length_eq, List.eq_nil_of_length_eq_zero two.length_eq]
  | append_singleton queries query ih =>
      rcases one.last with ⟨earlier, before, reply, first, rfl, answered⟩
      rcases two.last with ⟨sooner, ahead, response, second, rfl, responded⟩
      have same : before = ahead := first.state_eq.trans second.state_eq.symm
      rw [List.map_append, List.map_append, ih first second, List.map_singleton, List.map_singleton,
        functional before query reply response answered (same ▸ responded)]

end Dialogue

end Library.Dialogues
