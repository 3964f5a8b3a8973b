import DungeonPortfolio.Connection
import DungeonPortfolio.Decimals
import DungeonPortfolio.Library.Printing

/-!
# When a LOAD reply can be read back

`load_characters` prints a row as its name and four numbers with colons between
them, and rows with commas between them. Names are tokens, which may contain
colons and commas, and nothing is quoted: a name with the text of four numbers
and a comma inside hides what looks like the end of a row.
-/

namespace DungeonPortfolio.LoadReplies

open DungeonPortfolio.Text DungeonPortfolio.Protocol DungeonPortfolio.Statements
open DungeonPortfolio.Connection DungeonPortfolio.Decimals
open Library Library.Framing Library.Printing

set_option autoImplicit false

def spaced (words : List Bytes) : Bytes := words.flatMap fun word => 32 :: word

theorem extract_spaced {word : Bytes} (token : IsToken word) (words : List Bytes) :
    extractToken (32 :: word ++ spaced words) = (word, spaced words) := by
  have skipped : (32 :: word ++ spaced words).dropWhile isSpace = word ++ spaced words := by
    rcases token with ⟨some, plain⟩
    cases word with
    | nil => exact absurd rfl some
    | cons head rest =>
        have first := plain head List.mem_cons_self
        have space : isSpace 32 = true := by decide
        rw [List.cons_append, List.cons_append, List.dropWhile_cons_of_pos space,
          List.dropWhile_cons_of_neg (by rw [first]; exact Bool.false_ne_true)]
  have stops : (spaced words).takeWhile (fun byte => !isSpace byte) = [] ∧
      (spaced words).dropWhile (fun byte => !isSpace byte) = spaced words := by
    cases words with
    | nil => exact ⟨rfl, rfl⟩
    | cons next rest => exact ⟨rfl, rfl⟩
  have letters : ∀ byte ∈ word, (!isSpace byte) = true := by
    intro byte member
    rw [token.2 byte member]
    rfl
  unfold extractToken
  rw [skipped]
  simp only [List.takeWhile_append_of_pos letters, List.dropWhile_append_of_pos letters, stops,
    List.append_nil]

theorem tokens_spaced {words : List Bytes} (tokens : ∀ word ∈ words, IsToken word) {fuel : Nat}
    (enough : words.length ≤ fuel) : extractTokens fuel (spaced words) = words := by
  induction words generalizing fuel with
  | nil => cases fuel <;> rfl
  | cons word rest ih =>
      cases fuel with
      | zero => cases enough
      | succ fuel =>
          have token := tokens word List.mem_cons_self
          have later := ih (fun other member => tokens other (List.mem_cons_of_mem word member))
            (Nat.le_of_succ_le_succ enough)
          have flat : spaced (word :: rest) = 32 :: word ++ spaced rest := rfl
          rw [extractTokens, flat, extract_spaced token]
          cases word with
          | nil => exact absurd rfl token.1
          | cons head letters =>
              simp only
              rw [later]

theorem length_le_spaced (words : List Bytes) : words.length ≤ (spaced words).length := by
  induction words with
  | nil => exact Nat.le_refl 0
  | cons word rest ih =>
      have flat : spaced (word :: rest) = 32 :: word ++ spaced rest := rfl
      rw [flat]
      simp only [List.length_cons, List.length_append]
      omega

theorem parse_spaced {command : Bytes} {args : List Bytes} {front : Bytes} {digit : UInt8}
    (token : ∀ word ∈ command :: args, IsToken word)
    (ends : spaced (command :: args) = front ++ [digit]) (plain : digit ≠ carriageReturn) :
    parseLine (spaced (command :: args)) = parseCommand command args := by
  have kept : stripCarriageReturn (spaced (command :: args)) = spaced (command :: args) := by
    rw [stripCarriageReturn, ends, List.getLast?_concat, if_neg]
    intro same
    exact plain (Option.some.inj same)
  unfold parseLine tokens
  rw [kept, tokens_spaced token (length_le_spaced _)]

/-- SAVE and ENTER take exactly the tokens as names. -/
theorem name_accepted_iff (name : Bytes) :
    (IsToken name ↔ ∃ line request account level gold, parseLine line = .ok request ∧
      request.type = .saveCharacter ∧ request.args = [account, name, level, gold]) ∧
    (IsToken name ↔ ∃ line request account x y, parseLine line = .ok request ∧
      request.type = .enterWorld ∧ request.args = [account, name, x, y]) := by
  have words : ∀ command ∈ [ascii "SAVE", ascii "ENTER"], IsToken name →
      parseLine (spaced [command, ascii "a", name, ascii "1", ascii "1"]) =
        parseCommand command [ascii "a", name, ascii "1", ascii "1"] := by
    intro command known token
    have tokens : ∀ word ∈ [command, ascii "a", name, ascii "1", ascii "1"], IsToken word := by
      intro word member
      simp only [List.mem_cons, List.not_mem_nil, or_false] at member known
      rcases member with rfl | rfl | rfl | rfl | rfl
      · rcases known with rfl | rfl
        · decide
        · decide
      · decide
      · exact token
      · decide
      · decide
    refine parse_spaced tokens (?_ : _ = spaced [command, ascii "a", name, ascii "1"] ++ [32] ++ [49])
      (by decide)
    simp only [spaced, List.flatMap_cons, List.flatMap_nil, List.append_assoc, List.append_nil]
    rfl
  constructor
  · constructor
    · intro token
      exact ⟨_, ⟨.saveCharacter, ascii "SAVE", [ascii "a", name, ascii "1", ascii "1"]⟩, ascii "a",
        ascii "1", ascii "1", (words (ascii "SAVE") (by simp) token).trans rfl, rfl, rfl⟩
    · rintro ⟨line, request, account, level, gold, parsed, _, args⟩
      apply (parse_line_accepted parsed).2
      rw [args]
      simp
  · constructor
    · intro token
      exact ⟨_, ⟨.enterWorld, ascii "ENTER", [ascii "a", name, ascii "1", ascii "1"]⟩, ascii "a",
        ascii "1", ascii "1", (words (ascii "ENTER") (by simp) token).trans rfl, rfl, rfl⟩
    · rintro ⟨line, request, account, x, y, parsed, _, args⟩
      apply (parse_line_accepted parsed).2
      rw [args]
      simp

def valuesText (level gold : Nat) (x y : Int32) : Bytes :=
  ascii ":" ++ printNat level ++ ascii ":" ++ printNat gold ++ ascii ":" ++ printInt x ++
    ascii ":" ++ printInt y

def rowTail (row : Character) : Bytes := valuesText row.level row.gold row.x row.y

theorem values_text_flat (level gold : Nat) (x y : Int32) (front : Bytes) :
    front ++ valuesText level gold x y = front ++ colon :: printNat level ++ colon :: printNat gold ++
      colon :: printInt x ++ colon :: printInt y := by
  have ascii_colon : ascii ":" = [colon] := rfl
  simp only [valuesText, ascii_colon, List.append_assoc, List.cons_append, List.nil_append]

theorem not_in_values {byte : UInt8} (other : isDigit byte = false) (separates : byte ≠ colon)
    (positive : byte ≠ minusSign) (level gold : Nat) (x y : Int32) :
    byte ∉ valuesText level gold x y := by
  have flat := values_text_flat level gold x y []
  rw [List.nil_append] at flat
  rw [flat]
  simp only [List.mem_append, List.mem_cons, List.not_mem_nil, false_or, not_or]
  exact ⟨⟨⟨⟨separates, not_in_number _ other⟩, separates, not_in_number _ other⟩, separates,
    not_in_int _ other positive⟩, separates, not_in_int _ other positive⟩

theorem values_parts {front back : Bytes} {level level' gold gold' : Nat} {x x' y y' : Int32}
    (same : front ++ valuesText level gold x y = back ++ valuesText level' gold' x' y') :
    front = back ∧ level = level' ∧ gold = gold' ∧ x = x' ∧ y = y' := by
  rw [values_text_flat, values_text_flat] at same
  have noColon : ∀ value, colon ∉ printNat value := fun value => not_in_number value rfl
  have noColon' : ∀ value, colon ∉ printInt value := fun value => not_in_int value rfl (by decide)
  rcases cut_last (noColon' y) (noColon' y') same with ⟨same, ys⟩
  rcases cut_last (noColon' x) (noColon' x') same with ⟨same, xs⟩
  rcases cut_last (noColon gold) (noColon gold') same with ⟨same, golds⟩
  rcases cut_last (noColon level) (noColon level') same with ⟨same, levels⟩
  exact ⟨same, print_nat_injective levels, print_nat_injective golds, print_int_injective xs,
    print_int_injective ys⟩

theorem values_plain (level gold : Nat) (x y : Int32) :
    ∀ byte ∈ valuesText level gold x y, isSpace byte = false := by
  intro byte member
  cases space : isSpace byte with
  | false => rfl
  | true =>
      have digit : isDigit byte = false := by
        rw [Bool.eq_false_iff]
        intro digit
        rw [digit_is_not_space digit] at space
        cases space
      have separates : byte ≠ colon := by
        rintro rfl
        cases space
      have positive : byte ≠ minusSign := by
        rintro rfl
        cases space
      exact absurd member (not_in_values digit separates positive level gold x y)

/-- A character row with a name that SAVE and ENTER take and numbers that fit
their columns. -/
structure Plain (row : Character) : Prop where
  name : IsToken row.name
  level : row.level < 2 ^ 32
  gold : row.gold < 2 ^ 64

def rowLayout : Layout Character UInt8 where
  name := Character.name
  tail := rowTail
  separator := comma
  allowed byte := isSpace byte = false
  typed row := row.level < 2 ^ 32 ∧ row.gold < 2 ^ 64
  rename row name := { row with name }
  clean row := not_in_values rfl (by decide) (by decide) row.level row.gold row.x row.y
  ends := by
    intro front back first second same
    rcases values_parts same with ⟨fronts, levels, golds, xs, ys⟩
    refine ⟨fronts, ?_⟩
    rw [rowTail, levels, golds, xs, ys, rowTail]
  exact := by
    rintro ⟨name, level, gold, x, y⟩ ⟨name', level', gold', x', y'⟩ names tails
    have same : [] ++ valuesText level gold x y = [] ++ valuesText level' gold' x' y' := tails
    rcases values_parts same with ⟨_, rfl, rfl, rfl, rfl⟩
    cases names
    rfl
  allowed_tail row := values_plain row.level row.gold row.x row.y
  allowed_separator := rfl
  name_rename _ _ := rfl
  tail_rename _ _ := rfl
  typed_rename _ _ typed := typed

theorem valid_iff_plain {row : Character} : rowLayout.Valid row ↔ Plain row := by
  constructor
  · rintro ⟨named, allowed, level, gold⟩
    exact ⟨⟨named, allowed⟩, level, gold⟩
  · rintro ⟨⟨named, allowed⟩, level, gold⟩
    exact ⟨named, allowed, level, gold⟩

theorem character_text (row : Character) : characterText row = rowLayout.text row := by
  simp only [characterText, Layout.text, rowLayout, rowTail, valuesText, List.append_assoc]

/-- Two rows side by side, one with a name that hides the end of a row. -/
def Confusable (rows : List Character) : Prop :=
  ∃ earlier row next later, rows = earlier ++ row :: next :: later ∧
    ∃ front level gold x y back, level < 2 ^ 32 ∧ gold < 2 ^ 64 ∧
      ((row.name = front ++ valuesText level gold x y ++ comma :: back ∧ front ≠ []) ∨
        (next.name = front ++ valuesText level gold x y ++ comma :: back ∧ back ≠ []))

theorem hides_iff {row : Character} {front back : Bytes} :
    rowLayout.Hides row front back ↔ ∃ level gold x y, level < 2 ^ 32 ∧ gold < 2 ^ 64 ∧
      row.name = front ++ valuesText level gold x y ++ comma :: back := by
  constructor
  · rintro ⟨other, valid, named⟩
    exact ⟨other.level, other.gold, other.x, other.y, valid.typed.1, valid.typed.2, named⟩
  · rintro ⟨level, gold, x, y, small, fits, named⟩
    refine ⟨⟨[48], level, gold, x, y⟩, ⟨List.cons_ne_nil _ _, ?_, small, fits⟩, named⟩
    intro byte member
    rw [List.mem_singleton.mp member]
    rfl

theorem confusable_iff {rows : List Character} : rowLayout.Confusable rows ↔ Confusable rows := by
  constructor
  · rintro ⟨earlier, row, next, later, rfl, ⟨front, back, some, hides⟩ | ⟨front, back, some, hides⟩⟩
    · rcases hides_iff.mp hides with ⟨level, gold, x, y, small, fits, named⟩
      exact ⟨earlier, row, next, later, rfl, front, level, gold, x, y, back, small, fits,
        Or.inl ⟨named, some⟩⟩
    · rcases hides_iff.mp hides with ⟨level, gold, x, y, small, fits, named⟩
      exact ⟨earlier, row, next, later, rfl, front, level, gold, x, y, back, small, fits,
        Or.inr ⟨named, some⟩⟩
  · rintro ⟨earlier, row, next, later, rfl, front, level, gold, x, y, back, small, fits,
      ⟨named, some⟩ | ⟨named, some⟩⟩
    · exact ⟨earlier, row, next, later, rfl, Or.inl ⟨front, back, some,
        hides_iff.mpr ⟨level, gold, x, y, small, fits, named⟩⟩⟩
    · exact ⟨earlier, row, next, later, rfl, Or.inr ⟨front, back, some,
        hides_iff.mpr ⟨level, gold, x, y, small, fits, named⟩⟩⟩

theorem number_cut {first second : Nat} {rest more : Bytes} (ends : rest.takeWhile isDigit = [])
    (also : more.takeWhile isDigit = []) (same : printNat first ++ rest = printNat second ++ more) :
    first = second ∧ rest = more := by
  have digits : ∀ (value : Nat) (text : Bytes), text.takeWhile isDigit = [] →
      (printNat value ++ text).takeWhile isDigit = printNat value := by
    intro value text none
    rw [List.takeWhile_append_of_pos (print_nat_digits value).2, none, List.append_nil]
  have numbers : printNat first = printNat second := by
    rw [← digits first rest ends, same, digits second more also]
  rw [numbers] at same
  exact ⟨print_nat_injective numbers, List.append_cancel_left same⟩

/-- The reply tells how many rows it lists, and their texts. -/
theorem load_line_eq_iff (account : Bytes) (rows other : List Character) :
    loadLine account (rows.map characterText) = loadLine account (other.map characterText) ↔
      rows.length = other.length ∧ rowLayout.printed rows = rowLayout.printed other := by
  have texts : characterText = rowLayout.text := by
    funext row
    exact character_text row
  have printed : ∀ listed : List Character, listed ≠ [] →
      rowLayout.printed listed = commaJoined (listed.map rowLayout.text) ++ [comma] := by
    intro listed some
    exact joined_eq_intercalate (by simpa using some)
  have stops : ∀ listed : List Character, (if (listed.map rowLayout.text).isEmpty then []
      else ascii " characters=" ++ commaJoined (listed.map rowLayout.text)).takeWhile isDigit = [] := by
    intro listed
    split_ifs <;> rfl
  have nonempty : ∀ (row : Character) (rest : List Character),
      ((row :: rest).map rowLayout.text).isEmpty = false := fun _ _ => rfl
  rw [texts]
  constructor
  · intro same
    simp only [loadLine, List.append_assoc, List.append_cancel_left_eq, List.length_map] at same
    rcases number_cut (stops rows) (stops other) same with ⟨counts, rest⟩
    refine ⟨counts, ?_⟩
    cases rows with
    | nil => rw [List.length_eq_zero_iff.mp counts.symm]
    | cons row rows =>
        cases other with
        | nil => cases counts
        | cons first others =>
            simp only [nonempty, Bool.false_eq_true, if_false] at rest
            rw [printed _ (List.cons_ne_nil _ _), printed _ (List.cons_ne_nil _ _),
              List.append_cancel_left rest]
  · rintro ⟨counts, same⟩
    cases rows with
    | nil => rw [List.length_eq_zero_iff.mp counts.symm]
    | cons row rows =>
        cases other with
        | nil => cases counts
        | cons first others =>
            rw [printed _ (List.cons_ne_nil _ _), printed _ (List.cons_ne_nil _ _)] at same
            rw [loadLine, loadLine, List.append_cancel_right same, List.length_map, List.length_map,
              counts, nonempty, nonempty]

/-- The last part of `load_characters`: the fetched rows printed. -/
def printRows (account : Bytes) (rows : List Character) : JobScript Bytes := do
  let characters ← fetchCharacters account rows none
  return loadLine account characters

def Prints (account : Bytes) (rows : List Character) (line : Bytes) : Prop :=
  printRows account rows = .done line

theorem prints_line {account : Bytes} {rows : List Character} {line : Bytes}
    (prints : Prints account rows line) : line = loadLine account (rows.map characterText) := by
  have fetched : ∀ (listed : List Character) (texts : List Bytes),
      fetchCharacters account listed none = .done texts → texts = listed.map characterText := by
    intro listed
    induction listed with
    | nil =>
        intro texts done
        cases done
        rfl
    | cons row rest ih =>
        intro texts done
        simp only [fetchCharacters] at done
        split_ifs at done
        · cases done
        · cases later : fetchCharacters account rest none with
          | done others =>
              rw [later] at done
              cases done
              rw [ih others later]
              rfl
          | throws error =>
              rw [later] at done
              cases done
          | call statement next =>
              rw [later] at done
              cases done
  unfold Prints printRows at prints
  cases listed : fetchCharacters account rows none with
  | done texts =>
      rw [listed] at prints
      cases prints
      rw [fetched rows texts listed]
  | throws error =>
      rw [listed] at prints
      cases prints
  | call statement next =>
      rw [listed] at prints
      cases prints

/-- Rows that are not confusable are read back from their line; for every
confusable list there is another with the same text. -/
theorem load_reply_decodable_iff (account : Bytes) {rows : List Character}
    (plain : ∀ row ∈ rows, Plain row) :
    (¬ Confusable rows → ∀ other line, (∀ row ∈ other, Plain row) → Prints account rows line →
      Prints account other line → other = rows) ∧
    ((∀ other, (∀ row ∈ other, Plain row) →
        loadLine account (other.map characterText) = loadLine account (rows.map characterText) →
        other = rows) ↔ ¬ Confusable rows) := by
  have valid : ∀ row ∈ rows, rowLayout.Valid row := fun row member =>
    valid_iff_plain.mpr (plain row member)
  have decodable : (∀ other, (∀ row ∈ other, Plain row) →
      loadLine account (other.map characterText) = loadLine account (rows.map characterText) →
      other = rows) ↔ ¬ Confusable rows := by
    rw [← confusable_iff, ← Layout.determined_iff valid]
    constructor
    · intro determined other typed counts same
      apply determined other
      · intro row member
        exact valid_iff_plain.mp (typed row member)
      · exact (load_line_eq_iff account other rows).mpr ⟨counts, same⟩
    · intro determined other typed same
      rcases (load_line_eq_iff account other rows).mp same with ⟨counts, texts⟩
      exact determined other (fun row member => valid_iff_plain.mpr (typed row member)) counts texts
  refine ⟨?_, decodable⟩
  intro clear other line typed prints alike
  apply decodable.mpr clear other typed
  rw [← prints_line prints, ← prints_line alike]

theorem clear_of_no_comma {rows : List Character} (clean : ∀ row ∈ rows, comma ∉ row.name) :
    ¬ Confusable rows := by
  rintro ⟨earlier, row, next, later, rfl, front, level, gold, x, y, back, _, _,
    ⟨named, _⟩ | ⟨named, _⟩⟩
  · apply clean row (by simp)
    rw [named]
    exact List.mem_append_right _ List.mem_cons_self
  · apply clean next (by simp)
    rw [named]
    exact List.mem_append_right _ List.mem_cons_self

theorem load_reply_decodable_iff_two :
    ¬ Confusable [⟨ascii "main", 7, 20, 3, -4⟩, ⟨ascii "alt:1", 1, 0, 0, 0⟩] ∧
    ∀ other, (∀ row ∈ other, Plain row) →
      loadLine (ascii "ada") (other.map characterText) = loadLine (ascii "ada")
        ([⟨ascii "main", 7, 20, 3, -4⟩, ⟨ascii "alt:1", 1, 0, 0, 0⟩].map characterText) →
      other = [⟨ascii "main", 7, 20, 3, -4⟩, ⟨ascii "alt:1", 1, 0, 0, 0⟩] := by
  have plain : ∀ row ∈ ([⟨ascii "main", 7, 20, 3, -4⟩, ⟨ascii "alt:1", 1, 0, 0, 0⟩] :
      List Character), Plain row := by
    intro row member
    simp only [List.mem_cons, List.not_mem_nil, or_false] at member
    rcases member with rfl | rfl
    · exact ⟨by decide, by decide, by decide⟩
    · exact ⟨by decide, by decide, by decide⟩
  have clear : ¬ Confusable [⟨ascii "main", 7, 20, 3, -4⟩, ⟨ascii "alt:1", 1, 0, 0, 0⟩] :=
    clear_of_no_comma (by decide)
  exact ⟨clear, (load_reply_decodable_iff (ascii "ada") plain).2.mpr clear⟩

theorem prints_of_fitting (account : Bytes) {rows : List Character}
    (fits : ∀ row ∈ rows, row.name.length ≤ nameBuffer) :
    Prints account rows (loadLine account (rows.map characterText)) := by
  have fetched : fetchCharacters account rows none = .done (rows.map characterText) := by
    induction rows with
    | nil => rfl
    | cons row rest ih =>
        have short := Nat.not_lt.mpr (fits row List.mem_cons_self)
        rw [fetchCharacters, if_neg short,
          ih fun other member => fits other (List.mem_cons_of_mem row member)]
        rfl
  rw [Prints, printRows, fetched]
  rfl

def hidingFirst : List Character :=
  [⟨ascii "x:1:1:1:1,y", 1, 1, 1, 1⟩, ⟨ascii "z", 1, 1, 1, 1⟩]

def hidingSecond : List Character :=
  [⟨ascii "x", 1, 1, 1, 1⟩, ⟨ascii "y:1:1:1:1,z", 1, 1, 1, 1⟩]

/-- Two lists of two characters with the same reply. -/
theorem same_reply_other_rows :
    ¬ ∀ (account : Bytes) (rows other : List Character) (line : Bytes),
      (∀ row ∈ rows, Plain row) → (∀ row ∈ other, Plain row) →
      Prints account rows line → Prints account other line → rows = other := by
  intro decodable
  have plain : ∀ row ∈ hidingFirst ++ hidingSecond, Plain row := by
    intro row member
    simp only [hidingFirst, hidingSecond, List.cons_append, List.nil_append, List.mem_cons,
      List.not_mem_nil, or_false] at member
    rcases member with rfl | rfl | rfl | rfl
    · exact ⟨by decide, by decide, by decide⟩
    · exact ⟨by decide, by decide, by decide⟩
    · exact ⟨by decide, by decide, by decide⟩
    · exact ⟨by decide, by decide, by decide⟩
  have first := prints_of_fitting (ascii "ada") (by decide :
    ∀ row ∈ hidingFirst, row.name.length ≤ nameBuffer)
  have second := prints_of_fitting (ascii "ada") (by decide :
    ∀ row ∈ hidingSecond, row.name.length ≤ nameBuffer)
  have same : loadLine (ascii "ada") (hidingSecond.map characterText) =
      loadLine (ascii "ada") (hidingFirst.map characterText) := by decide +kernel
  rw [same] at second
  have equal := decodable (ascii "ada") hidingFirst hidingSecond _
    (fun row member => plain row (List.mem_append_left _ member))
    (fun row member => plain row (List.mem_append_right _ member)) first second
  revert equal
  decide

end DungeonPortfolio.LoadReplies
