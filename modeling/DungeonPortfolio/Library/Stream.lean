import Mathlib.Data.List.Flatten

/-!
# An output stream under partial writes

A writer appends chunks to a queue. The front chunk is offered to the other side,
which takes a prefix of it of any length and says how much it took. Nothing is
lost, repeated or reordered: what was written is what was acknowledged followed
by what is still queued.
-/

namespace Library.Stream

set_option autoImplicit false

variable {Byte : Type*}

/-- The queue after `count` bytes of its front have been taken. -/
def advance (pending : List (List Byte)) (count : Nat) : List (List Byte) :=
  match pending with
  | [] => []
  | front :: rest => if front.length ≤ count then rest else front.drop count :: rest

def Faithful (written acknowledged : List Byte) (pending : List (List Byte)) : Prop :=
  written = acknowledged ++ pending.flatten

theorem faithful_nil : Faithful ([] : List Byte) [] [] := rfl

theorem Faithful.push {written acknowledged : List Byte} {pending : List (List Byte)}
    (faithful : Faithful written acknowledged pending) (chunk : List Byte) :
    Faithful (written ++ chunk) acknowledged (pending ++ [chunk]) := by
  unfold Faithful at *
  rw [faithful, List.flatten_append, List.flatten_singleton, List.append_assoc]

theorem advance_flatten {front : List Byte} {rest : List (List Byte)} {count : Nat}
    (within : count ≤ front.length) :
    front.take count ++ (advance (front :: rest) count).flatten = (front :: rest).flatten := by
  by_cases whole : front.length ≤ count
  · have all : count = front.length := by omega
    simp only [advance, if_pos whole]
    rw [all, List.take_length, List.flatten_cons]
  · simp only [advance, if_neg whole]
    rw [List.flatten_cons, List.flatten_cons, ← List.append_assoc, List.take_append_drop]

theorem Faithful.advance {written acknowledged front : List Byte} {rest : List (List Byte)}
    {count : Nat} (faithful : Faithful written acknowledged (front :: rest))
    (within : count ≤ front.length) :
    Faithful written (acknowledged ++ front.take count) (advance (front :: rest) count) := by
  unfold Faithful at *
  rw [faithful, List.append_assoc, advance_flatten within]

theorem Faithful.drained {written acknowledged : List Byte}
    (faithful : Faithful written acknowledged []) : written = acknowledged := by
  unfold Faithful at faithful
  rw [faithful, List.flatten_nil, List.append_nil]

end Library.Stream
