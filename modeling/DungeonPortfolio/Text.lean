import Mathlib.Data.Nat.Digits.Defs
import Mathlib.Data.List.TakeWhile

/-!
# Byte strings and the conversions of the standard library

`std::string` is a list of bytes. The conversions follow the documented
behaviour in the "C" locale: `std::to_string`, and `std::stoi`, `std::stoul`,
`std::stoull` on top of `strtol` and `strtoul` (leading white space, an optional
sign, the longest digit prefix; trailing bytes are ignored). `long` and
`unsigned long` have 64 bits, `int` and `unsigned int` 32.
-/

namespace DungeonPortfolio.Text

set_option autoImplicit false

abbrev Bytes := List UInt8

/-- The bytes of an ASCII literal of the source. -/
def ascii (literal : String) : Bytes := literal.toList.map fun c => UInt8.ofNat c.toNat

def newline : UInt8 := 10
def carriageReturn : UInt8 := 13
def space : UInt8 := 32

def isSpace (byte : UInt8) : Bool := byte == 32 || (9 ≤ byte && byte ≤ 13)
def isDigit (byte : UInt8) : Bool := 48 ≤ byte && byte ≤ 57
def toUpper (byte : UInt8) : UInt8 := if 97 ≤ byte && byte ≤ 122 then byte - 32 else byte

/-- The exceptions of the program by class, with the text they are made with. -/
inductive StdException where
  | invalidArgument (text : Bytes)
  | outOfRange (text : Bytes)
  | runtimeError (text : Bytes)
  deriving DecidableEq, Repr

def StdException.text : StdException → Bytes
  | .invalidArgument text => text
  | .outOfRange text => text
  | .runtimeError text => text

/-- `what()` is a C string: it ends at the first NUL byte of the text. -/
def StdException.what (error : StdException) : Bytes := error.text.takeWhile fun byte => byte ≠ 0

/-- `std::vector::at`. -/
def at? {Item : Type*} (items : List Item) (index : Nat) : Except StdException Item :=
  match items[index]? with
  | some item => .ok item
  | none => .error (.outOfRange (ascii "vector::_M_range_check"))

def digitByte (digit : Nat) : UInt8 := UInt8.ofNat (48 + digit)

/-- `std::to_string` on an unsigned number. -/
def printNat (value : Nat) : Bytes :=
  if value = 0 then [48] else ((Nat.digits 10 value).map digitByte).reverse

/-- `std::to_string` on an `int`. -/
def printInt (value : Int32) : Bytes :=
  if value.toInt < 0 then 45 :: printNat value.toInt.natAbs else printNat value.toInt.natAbs

def digitValue (byte : UInt8) : Nat := byte.toNat - 48

/-- Value of a digit string, most significant digit first. -/
def decimalValue (digits : Bytes) : Nat :=
  digits.foldl (fun value digit => value * 10 + digitValue digit) 0

/-- What `strtol` and `strtoul` read in base ten: the sign and the magnitude of
the longest digit prefix, nothing when there is no digit. -/
def readNumber (input : Bytes) : Option (Bool × Nat) :=
  let unspaced := input.dropWhile isSpace
  let (negative, unsigned) : Bool × Bytes := match unspaced with
    | 45 :: rest => (true, rest)
    | 43 :: rest => (false, rest)
    | rest => (false, rest)
  match unsigned.takeWhile isDigit with
  | [] => none
  | digits => some (negative, decimalValue digits)

def signedValue (negative : Bool) (magnitude : Nat) : Int :=
  if negative then -(magnitude : Int) else magnitude

/-- `std::stoi`: `out_of_range` when the value does not fit in `long` or in `int`. -/
def stoi (input : Bytes) : Except StdException Int32 :=
  match readNumber input with
  | none => .error (.invalidArgument (ascii "stoi"))
  | some (negative, magnitude) =>
      let value := signedValue negative magnitude
      if -2147483648 ≤ value ∧ value ≤ 2147483647 then .ok (Int32.ofInt value)
      else .error (.outOfRange (ascii "stoi"))

/-- `std::stoul` and `std::stoull`, which differ in the name they report: 64
bits, a minus sign negates modulo 2^64. -/
def stoUnsigned (name : Bytes) (input : Bytes) : Except StdException Nat :=
  match readNumber input with
  | none => .error (.invalidArgument name)
  | some (negative, magnitude) =>
      if 2 ^ 64 ≤ magnitude then .error (.outOfRange name)
      else .ok (if negative then (2 ^ 64 - magnitude) % 2 ^ 64 else magnitude)

def stoul (input : Bytes) : Except StdException Nat := stoUnsigned (ascii "stoul") input
def stoull (input : Bytes) : Except StdException Nat := stoUnsigned (ascii "stoull") input

/-- `static_cast<unsigned int>` of an `unsigned long`. -/
def toUInt32 (value : Nat) : Nat := value % 2 ^ 32

/-- An optional minus sign and at least one digit, nothing else. -/
def IsSignedDecimal (input : Bytes) : Prop :=
  ∃ (negative : Bool) (digits : Bytes), input = (if negative then [45] else []) ++ digits ∧ digits ≠ [] ∧
    ∀ byte ∈ digits, isDigit byte = true

def signedDecimal (input : Bytes) : Int :=
  match input with
  | 45 :: digits => -(decimalValue digits : Int)
  | digits => decimalValue digits

theorem digit_is_not_space {byte : UInt8} (digit : isDigit byte = true) : isSpace byte = false := by
  revert digit
  simp only [isDigit, isSpace, Bool.and_eq_true, decide_eq_true_eq, Bool.or_eq_false_iff,
    beq_eq_false_iff_ne, ne_eq, Bool.and_eq_false_iff, decide_eq_false_iff_not,
    UInt8.le_iff_toNat_le, ← UInt8.toNat_inj, UInt8.reduceToNat]
  omega

theorem digit_ne_minus {byte : UInt8} (digit : isDigit byte = true) : byte ≠ 45 := by
  rintro rfl
  exact absurd digit (by decide)

theorem digit_ne_plus {byte : UInt8} (digit : isDigit byte = true) : byte ≠ 43 := by
  rintro rfl
  exact absurd digit (by decide)

theorem take_while_digits {digits : Bytes} (all : ∀ byte ∈ digits, isDigit byte = true) :
    digits.takeWhile isDigit = digits :=
  List.takeWhile_eq_self_iff.mpr all

def IsDigits (text : Bytes) : Prop := text ≠ [] ∧ ∀ byte ∈ text, isDigit byte = true

theorem read_number_of_digits {text : Bytes} (digits : IsDigits text) :
    readNumber text = some (false, decimalValue text) := by
  rcases List.exists_cons_of_ne_nil digits.1 with ⟨head, tail, rfl⟩
  have headDigit := digits.2 head List.mem_cons_self
  have whole := take_while_digits digits.2
  have unspaced : (head :: tail).dropWhile isSpace = head :: tail := by
    simp [List.dropWhile, digit_is_not_space headDigit]
  have signless : (match head :: tail with
      | 45 :: rest => (true, rest)
      | 43 :: rest => (false, rest)
      | rest => (false, rest)) = ((false, head :: tail) : Bool × Bytes) := by
    split
    · rename_i rest same
      exact absurd (List.cons.inj same).1 (digit_ne_minus headDigit)
    · rename_i rest same
      exact absurd (List.cons.inj same).1 (digit_ne_plus headDigit)
    · rfl
  simp only [readNumber, unspaced, signless, whole]

theorem read_number_of_minus {digits : Bytes} (all : IsDigits digits) :
    readNumber (45 :: digits) = some (true, decimalValue digits) := by
  rcases List.exists_cons_of_ne_nil all.1 with ⟨head, tail, rfl⟩
  have whole := take_while_digits all.2
  have unspaced : (45 :: head :: tail : Bytes).dropWhile isSpace = 45 :: head :: tail := by
    simp [List.dropWhile, show isSpace 45 = false by decide]
  simp only [readNumber, unspaced, whole]

theorem read_number_of_signed_decimal {input : Bytes} (decimal : IsSignedDecimal input) :
    ∃ negative magnitude, readNumber input = some (negative, magnitude) ∧
      signedValue negative magnitude = signedDecimal input := by
  rcases decimal with ⟨negative, digits, rfl, nonempty, all⟩
  cases negative with
  | true => exact ⟨true, decimalValue digits, read_number_of_minus ⟨nonempty, all⟩, rfl⟩
  | false =>
      refine ⟨false, decimalValue digits, read_number_of_digits ⟨nonempty, all⟩, ?_⟩
      rcases List.exists_cons_of_ne_nil nonempty with ⟨head, tail, rfl⟩
      simp only [signedValue, Bool.false_eq_true, if_false, List.nil_append, signedDecimal]
      split
      · rename_i rest same
        exact absurd (List.cons.inj same).1 (digit_ne_minus (all head List.mem_cons_self))
      · rfl

/-- `std::stoi` on a signed decimal string succeeds exactly on the range of `int`. -/
theorem stoi_ok_iff {input : Bytes} (decimal : IsSignedDecimal input) :
    (∃ value, stoi input = .ok value) ↔
      -2147483648 ≤ signedDecimal input ∧ signedDecimal input ≤ 2147483647 := by
  obtain ⟨negative, magnitude, readable, value⟩ := read_number_of_signed_decimal decimal
  simp only [stoi, readable, value]
  by_cases fits : -2147483648 ≤ signedDecimal input ∧ signedDecimal input ≤ 2147483647
  · simp only [fits, and_self, if_true, Except.ok.injEq, exists_eq']
  · simp only [fits, if_false, reduceCtorEq, exists_false]

example : printInt (-7) = ascii "-7" ∧ printNat 0 = ascii "0" := by decide

end DungeonPortfolio.Text
