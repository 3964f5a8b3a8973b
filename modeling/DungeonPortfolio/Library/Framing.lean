import Mathlib.Data.List.Flatten

/-!
# Framing a stream by a separator

A reader takes the pieces of a stream that end with the separator, one after
another, and stops after the first piece of a certain kind. What it has taken
depends on the stream alone, not on how the stream was cut when it arrived.
-/

namespace Library.Framing

set_option autoImplicit false

variable {Symbol : Type*}

/-- The pieces up to the first one that stops the reader, which is included. -/
def upTo (stops : List Symbol → Bool) : List (List Symbol) → List (List Symbol)
  | [] => []
  | piece :: rest => if stops piece then [piece] else piece :: upTo stops rest

variable {stops : List Symbol → Bool} {taken : List (List Symbol)}

theorem up_to_append (goes : ∀ piece ∈ taken, stops piece = false) (more : List (List Symbol)) :
    upTo stops (taken ++ more) = taken ++ upTo stops more := by
  induction taken with
  | nil => rfl
  | cons piece rest ih =>
      have here := goes piece List.mem_cons_self
      have later := ih fun other member => goes other (List.mem_cons_of_mem piece member)
      rw [List.cons_append, upTo, here, later]
      rfl

theorem up_to_of_none (goes : ∀ piece ∈ taken, stops piece = false) : upTo stops taken = taken := by
  have alone := up_to_append goes []
  rw [List.append_nil, upTo, List.append_nil] at alone
  exact alone

/-- Only the last piece stops the reader: nothing that follows is taken. -/
theorem up_to_stopped (goes : ∀ piece ∈ taken.dropLast, stops piece = false)
    (stopped : taken.any stops = true) (more : List (List Symbol)) :
    upTo stops (taken ++ more) = taken := by
  rcases List.eq_nil_or_concat taken with rfl | ⟨front, last, rfl⟩
  · cases stopped
  · rw [List.concat_eq_append] at *
    rw [List.dropLast_concat] at goes
    have stop : stops last = true := by
      rcases List.any_eq_true.mp stopped with ⟨piece, member, stop⟩
      rcases List.mem_append.mp member with earlier | final
      · rw [goes piece earlier] at stop
        cases stop
      · rw [← List.mem_singleton.mp final]
        exact stop
    rw [List.append_assoc, up_to_append goes, List.singleton_append, upTo, stop]
    rfl

/-- The stream that consists of the pieces, each with its separator. -/
def joined (separator : Symbol) (pieces : List (List Symbol)) : List Symbol :=
  pieces.flatMap fun piece => piece ++ [separator]

theorem joined_append (separator : Symbol) (first second : List (List Symbol)) :
    joined separator (first ++ second) = joined separator first ++ joined separator second :=
  List.flatMap_append

theorem mem_intercalate {separator : List Symbol} {texts : List (List Symbol)} {symbol : Symbol}
    (member : symbol ∈ separator.intercalate texts) :
    symbol ∈ separator ∨ ∃ text ∈ texts, symbol ∈ text := by
  induction texts with
  | nil => cases member
  | cons text rest ih =>
      cases rest with
      | nil =>
          rw [List.intercalate_singleton] at member
          exact Or.inr ⟨text, List.mem_cons_self, member⟩
      | cons next others =>
          rw [List.intercalate_cons_cons] at member
          rcases List.mem_append.mp member with front | later
          · rcases List.mem_append.mp front with here | between
            · exact Or.inr ⟨text, List.mem_cons_self, here⟩
            · exact Or.inl between
          · rcases ih later with between | ⟨other, listed, inside⟩
            · exact Or.inl between
            · exact Or.inr ⟨other, List.mem_cons_of_mem text listed, inside⟩

theorem subset_intercalate {separator : List Symbol} {texts : List (List Symbol)}
    {text : List Symbol} (listed : text ∈ texts) : text ⊆ separator.intercalate texts := by
  intro symbol inside
  induction texts with
  | nil => cases listed
  | cons first rest ih =>
      cases rest with
      | nil =>
          rw [List.intercalate_singleton, ← List.mem_singleton.mp listed]
          exact inside
      | cons next others =>
          rw [List.intercalate_cons_cons]
          rcases List.mem_cons.mp listed with rfl | later
          · exact List.mem_append_left _ (List.mem_append_left _ inside)
          · exact List.mem_append_right _ (ih later)

theorem joined_eq_intercalate {separator : Symbol} {texts : List (List Symbol)} (some : texts ≠ []) :
    joined separator texts = [separator].intercalate texts ++ [separator] := by
  induction texts with
  | nil => exact absurd rfl some
  | cons text rest ih =>
      cases rest with
      | nil => simp [joined]
      | cons next others =>
          have later := ih (List.cons_ne_nil next others)
          rw [List.intercalate_cons_cons, List.append_assoc, ← later]
          simp [joined]

/-- The reader has taken some pieces of what has arrived, `rest` is left. -/
structure Reading (separator : Symbol) (stops : List Symbol → Bool) (stream : List Symbol)
    (taken : List (List Symbol)) (rest : List Symbol) : Prop where
  split : stream = joined separator taken ++ rest
  clean : ∀ piece ∈ taken, separator ∉ piece
  goes : ∀ piece ∈ taken.dropLast, stops piece = false

variable {separator : Symbol} {stream rest : List Symbol}

theorem reading_nil (separator : Symbol) (stops : List Symbol → Bool) :
    Reading separator stops [] [] [] where
  split := rfl
  clean := by
    intro piece member
    cases member
  goes := by
    intro piece member
    cases member

theorem Reading.arrive (reading : Reading separator stops stream taken rest)
    (more : List Symbol) : Reading separator stops (stream ++ more) taken (rest ++ more) where
  split := by rw [reading.split, List.append_assoc]
  clean := reading.clean
  goes := reading.goes

theorem Reading.take {piece left : List Symbol}
    (reading : Reading separator stops stream taken (piece ++ separator :: left))
    (clean : separator ∉ piece) (running : taken.any stops = false) :
    Reading separator stops stream (taken ++ [piece]) left where
  split := by
    rw [reading.split, joined_append, List.append_assoc]
    simp [joined]
  clean := by
    intro other member
    rcases List.mem_append.mp member with earlier | last
    · exact reading.clean other earlier
    · rw [List.mem_singleton.mp last]
      exact clean
  goes := by
    rw [List.dropLast_concat]
    intro other member
    exact Bool.eq_false_iff.mpr (List.any_eq_false.mp running other member)

variable [DecidableEq Symbol]

def pieces (separator : Symbol) (stream : List Symbol) : List (List Symbol) :=
  (stream.splitOn separator).dropLast

def remainder (separator : Symbol) (stream : List Symbol) : List Symbol :=
  (stream.splitOn separator).getLastD []

theorem split_joined (clean : ∀ piece ∈ taken, separator ∉ piece) (rest : List Symbol) :
    (joined separator taken ++ rest).splitOn separator = taken ++ rest.splitOn separator := by
  induction taken with
  | nil => rfl
  | cons piece more ih =>
      have here := clean piece List.mem_cons_self
      have later := ih fun other member => clean other (List.mem_cons_of_mem piece member)
      have flat : joined separator (piece :: more) ++ rest =
          piece ++ separator :: (joined separator more ++ rest) := by
        simp [joined]
      rw [flat, List.splitOn_append_cons_self_of_not_mem here, later, List.cons_append]

theorem pieces_joined (clean : ∀ piece ∈ taken, separator ∉ piece) (rest : List Symbol) :
    pieces separator (joined separator taken ++ rest) = taken ++ pieces separator rest := by
  rw [pieces, split_joined clean, pieces, List.dropLast_append_of_ne_nil]
  exact List.splitOn_ne_nil separator rest

theorem pieces_of_clean {rest : List Symbol} (clean : separator ∉ rest) :
    pieces separator rest = [] := by
  rw [pieces, List.splitOn_eq_singleton clean]
  rfl

theorem remainder_joined (clean : ∀ piece ∈ taken, separator ∉ piece) {rest : List Symbol}
    (last : separator ∉ rest) : remainder separator (joined separator taken ++ rest) = rest := by
  rw [remainder, split_joined clean, List.splitOn_eq_singleton last, List.getLastD_concat]

/-- A reader that has stopped or has no piece left has taken what the stream says. -/
theorem Reading.complete (reading : Reading separator stops stream taken rest)
    (done : taken.any stops = true ∨ separator ∉ rest) :
    taken = upTo stops (pieces separator stream) := by
  rw [reading.split, pieces_joined reading.clean]
  cases stopped : taken.any stops with
  | true => exact (up_to_stopped reading.goes stopped _).symm
  | false =>
      have exhausted : separator ∉ rest := by
        rcases done with contrary | exhausted
        · rw [stopped] at contrary
          cases contrary
        · exact exhausted
      have goes : ∀ piece ∈ taken, stops piece = false := by
        intro piece member
        exact Bool.eq_false_iff.mpr (List.any_eq_false.mp stopped piece member)
      rw [pieces_of_clean exhausted, List.append_nil, up_to_of_none goes]

/-- What arrives after the reader has stopped does not matter. -/
theorem Reading.stopped (reading : Reading separator stops stream taken rest)
    (stopped : taken.any stops = true) (more : List Symbol) :
    taken = upTo stops (pieces separator (stream ++ more)) :=
  (reading.arrive more).complete (Or.inl stopped)

theorem Reading.left (reading : Reading separator stops stream taken rest)
    (exhausted : separator ∉ rest) : remainder separator stream = rest := by
  rw [reading.split]
  exact remainder_joined reading.clean exhausted

end Library.Framing
