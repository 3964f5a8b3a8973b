import DungeonPortfolio.Library.Execution

/-!
# A consumer woken by a counter

Producers put items on a shelf and ring afterwards, which adds one to a counter.
A watch over the counter wakes the consumer; it sets the counter back until it
finds it at zero, takes items until there are none, and arms the watch again. The
counter is bounded, and a ring may be refused while it is not zero.
-/

namespace Library.Doorbell

open Library.Execution

set_option autoImplicit false

variable {Item : Type*}

inductive Watch where
  | armed
  | fired
  | clearing
  | collecting
  | rearming
  deriving DecidableEq, Repr

/-- `owing` counts the producers between putting an item and ringing. -/
structure Bell (Item : Type*) where
  shelf : List Item
  owing : Nat
  counter : Nat
  watch : Watch
  deriving DecidableEq, Repr

inductive Move (Item : Type*) where
  | put (item : Item)
  | ring
  | refused
  | retry
  | fire
  | wake
  | clear
  | cleared
  | collect
  | finish
  | arm
  deriving DecidableEq, Repr

def asleep : Bell Item := ⟨[], 0, 0, .rearming⟩

def step (capacity : Nat) (bell : Bell Item) : Move Item → Option (Bell Item)
  | .put item => some { bell with shelf := bell.shelf ++ [item], owing := bell.owing + 1 }
  | .ring =>
      if bell.owing ≠ 0 ∧ bell.counter < capacity then
        some { bell with owing := bell.owing - 1, counter := bell.counter + 1 }
      else none
  | .refused =>
      if bell.owing ≠ 0 ∧ bell.counter ≠ 0 then some { bell with owing := bell.owing - 1 }
      else none
  | .retry => if bell.owing ≠ 0 then some bell else none
  | .fire =>
      if bell.watch = .armed ∧ bell.counter ≠ 0 then some { bell with watch := .fired } else none
  | .wake => if bell.watch = .fired then some { bell with watch := .clearing } else none
  | .clear =>
      if bell.watch = .clearing ∧ bell.counter ≠ 0 then some { bell with counter := 0 } else none
  | .cleared =>
      if bell.watch = .clearing ∧ bell.counter = 0 then some { bell with watch := .collecting }
      else none
  | .collect =>
      match bell.watch, bell.shelf with
      | .collecting, _ :: rest => some { bell with shelf := rest }
      | _, _ => none
  | .finish =>
      match bell.watch, bell.shelf with
      | .collecting, [] => some { bell with watch := .rearming }
      | _, _ => none
  | .arm => if bell.watch = .rearming then some { bell with watch := .armed } else none

/-- Somebody will look at what is on the shelf. -/
def Attended (bell : Bell Item) : Prop :=
  bell.shelf ≠ [] → bell.owing ≠ 0 ∨ bell.counter ≠ 0 ∨ bell.watch = .clearing ∨
    bell.watch = .collecting

variable {capacity : Nat} {bell next : Bell Item} {move : Move Item}

theorem attended_step (attended : Attended bell) (taken : step capacity bell move = some next) :
    Attended next := by
  intro filled
  cases move with
  | put item =>
      obtain rfl := Option.some.inj taken
      exact Or.inl (Nat.succ_ne_zero bell.owing)
  | ring =>
      simp only [step, Option.ite_none_right_eq_some] at taken
      obtain rfl := Option.some.inj taken.2
      exact Or.inr (Or.inl (Nat.succ_ne_zero bell.counter))
  | refused =>
      simp only [step, Option.ite_none_right_eq_some] at taken
      obtain rfl := Option.some.inj taken.2
      exact Or.inr (Or.inl taken.1.2)
  | retry =>
      simp only [step, Option.ite_none_right_eq_some] at taken
      obtain rfl := Option.some.inj taken.2
      exact attended filled
  | fire =>
      simp only [step, Option.ite_none_right_eq_some] at taken
      obtain rfl := Option.some.inj taken.2
      exact Or.inr (Or.inl taken.1.2)
  | wake =>
      simp only [step, Option.ite_none_right_eq_some] at taken
      obtain rfl := Option.some.inj taken.2
      exact Or.inr (Or.inr (Or.inl rfl))
  | clear =>
      simp only [step, Option.ite_none_right_eq_some] at taken
      obtain rfl := Option.some.inj taken.2
      exact Or.inr (Or.inr (Or.inl taken.1.1))
  | cleared =>
      simp only [step, Option.ite_none_right_eq_some] at taken
      obtain rfl := Option.some.inj taken.2
      exact Or.inr (Or.inr (Or.inr rfl))
  | collect =>
      simp only [step] at taken
      split at taken
      · rename_i item rest collecting _
        obtain rfl := Option.some.inj taken
        exact Or.inr (Or.inr (Or.inr collecting))
      · cases taken
  | finish =>
      simp only [step] at taken
      split at taken
      · rename_i collecting empty
        obtain rfl := Option.some.inj taken
        exact absurd empty filled
      · cases taken
  | arm =>
      simp only [step, Option.ite_none_right_eq_some] at taken
      obtain rfl := Option.some.inj taken.2
      rcases attended filled with owing | rung | clearing | collecting
      · exact Or.inl owing
      · exact Or.inr (Or.inl rung)
      · rw [taken.1] at clearing
        cases clearing
      · rw [taken.1] at collecting
        cases collecting

theorem attended_reachable (reached : Reachable (step capacity) asleep bell) : Attended bell :=
  reached.invariant (fun filled => absurd rfl filled) fun _ _ _ before taken =>
    attended_step before taken

/-- An armed watch that does not fire watches over an empty shelf. -/
theorem shelf_empty (reached : Reachable (step capacity) asleep bell) (armed : bell.watch = .armed)
    (still : step capacity bell .fire = none) (rung : bell.owing = 0) : bell.shelf = [] := by
  by_contra filled
  rcases attended_reachable reached filled with owing | counted | clearing | collecting
  · exact owing rung
  · rw [step, if_pos ⟨armed, counted⟩] at still
    cases still
  · rw [armed] at clearing
    cases clearing
  · rw [armed] at collecting
    cases collecting

end Library.Doorbell
