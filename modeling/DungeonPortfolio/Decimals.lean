import DungeonPortfolio.Protocol
import Mathlib.Tactic.IntervalCases

/-!
# Printed numbers read back

`std::to_string` writes digits only, apart from a minus sign, and the conversions
give the number back; on tokens of digits `std::stoul` and `std::stoull` give the
decimal value as long as it has 64 bits.
-/

namespace DungeonPortfolio.Decimals

open DungeonPortfolio.Text DungeonPortfolio.Protocol

set_option autoImplicit false

theorem is_digits_of_unsigned {value : Bytes} (unsigned : isUnsignedNumber value = true) :
    IsDigits value := by
  simp only [isUnsignedNumber, Bool.and_eq_true, Bool.not_eq_true', List.isEmpty_eq_false_iff,
    List.all_eq_true] at unsigned
  exact unsigned

theorem sto_unsigned_of_digits {text name : Bytes} (digits : IsDigits text) :
    stoUnsigned name text =
      if 2 ^ 64 ≤ decimalValue text then .error (.outOfRange name) else .ok (decimalValue text) := by
  simp only [stoUnsigned, read_number_of_digits digits, Bool.false_eq_true, if_false]

theorem stoul_of_digits {text : Bytes} (digits : IsDigits text) (fits : decimalValue text < 2 ^ 64) :
    stoul text = .ok (decimalValue text) := by
  rw [stoul, sto_unsigned_of_digits digits, if_neg (Nat.not_le.mpr fits)]

theorem stoull_of_digits {text : Bytes} (digits : IsDigits text) (fits : decimalValue text < 2 ^ 64) :
    stoull text = .ok (decimalValue text) := by
  rw [stoull, sto_unsigned_of_digits digits, if_neg (Nat.not_le.mpr fits)]

theorem stoul_of_long_digits {text : Bytes} (digits : IsDigits text)
    (long : 2 ^ 64 ≤ decimalValue text) : ∃ error, stoul text = .error error :=
  ⟨_, by rw [stoul, sto_unsigned_of_digits digits, if_pos long]⟩

theorem stoull_of_long_digits {text : Bytes} (digits : IsDigits text)
    (long : 2 ^ 64 ≤ decimalValue text) : ∃ error, stoull text = .error error :=
  ⟨_, by rw [stoull, sto_unsigned_of_digits digits, if_pos long]⟩

theorem digit_byte_facts {digit : Nat} (small : digit < 10) :
    isDigit (digitByte digit) = true ∧ digitValue (digitByte digit) = digit := by
  interval_cases digit <;> decide

theorem decimal_value_append (text : Bytes) (byte : UInt8) :
    decimalValue (text ++ [byte]) = decimalValue text * 10 + digitValue byte := by
  simp only [decimalValue, List.foldl_append, List.foldl_cons, List.foldl_nil]

theorem print_nat_step {value : Nat} (large : 10 ≤ value) :
    printNat value = printNat (value / 10) ++ [digitByte (value % 10)] := by
  have nonzero : value ≠ 0 := by omega
  have quotient : value / 10 ≠ 0 := by omega
  rw [printNat, if_neg nonzero, printNat, if_neg quotient,
    Nat.digits_def' (by omega) (Nat.pos_of_ne_zero nonzero)]
  simp

theorem print_nat_digit {value : Nat} (small : value < 10) :
    printNat value = [digitByte value] := by
  interval_cases value <;> decide

theorem print_nat_facts (value : Nat) :
    IsDigits (printNat value) ∧ decimalValue (printNat value) = value := by
  induction value using Nat.strong_induction_on with
  | _ value ih =>
      by_cases small : value < 10
      · rw [print_nat_digit small]
        have facts := digit_byte_facts small
        refine ⟨⟨List.cons_ne_nil _ _, ?_⟩, ?_⟩
        · intro byte member
          rw [List.mem_singleton.mp member]
          exact facts.1
        · simp [decimalValue, facts.2]
      · have large : 10 ≤ value := by omega
        have rest := ih (value / 10) (by omega)
        have facts := digit_byte_facts (Nat.mod_lt value (by omega))
        rw [print_nat_step large]
        refine ⟨⟨by simp, ?_⟩, ?_⟩
        · intro byte member
          rcases List.mem_append.mp member with before | last
          · exact rest.1.2 byte before
          · rw [List.mem_singleton.mp last]
            exact facts.1
        · rw [decimal_value_append, rest.2, facts.2]
          omega

theorem print_nat_digits (value : Nat) : IsDigits (printNat value) := (print_nat_facts value).1

theorem decimal_value_print_nat (value : Nat) : decimalValue (printNat value) = value :=
  (print_nat_facts value).2

theorem print_nat_injective {first second : Nat} (same : printNat first = printNat second) :
    first = second := by
  rw [← decimal_value_print_nat first, same, decimal_value_print_nat]

theorem stoi_print_int (value : Int32) : stoi (printInt value) = .ok value := by
  have back : Int32.ofInt value.toInt = value := Int32.ofInt_toInt value
  have range : -2147483648 ≤ value.toInt ∧ value.toInt ≤ 2147483647 :=
    ⟨value.minValue_le_toInt, value.toInt_le⟩
  by_cases negative : value.toInt < 0
  · have read : readNumber (printInt value) = some (true, value.toInt.natAbs) := by
      rw [printInt, if_pos negative, read_number_of_minus (print_nat_digits _),
        decimal_value_print_nat]
    have signed : signedValue true value.toInt.natAbs = value.toInt := by
      simp only [signedValue, if_true]
      omega
    simp only [stoi, read, signed, range, and_self, if_true, back]
  · have read : readNumber (printInt value) = some (false, value.toInt.natAbs) := by
      rw [printInt, if_neg negative, read_number_of_digits (print_nat_digits _),
        decimal_value_print_nat]
    have signed : signedValue false value.toInt.natAbs = value.toInt := by
      simp only [signedValue, Bool.false_eq_true, if_false]
      omega
    simp only [stoi, read, signed, range, and_self, if_true, back]

theorem print_int_injective {first second : Int32} (same : printInt first = printInt second) :
    first = second := by
  have read := stoi_print_int first
  rw [same, stoi_print_int] at read
  exact (Except.ok.inj read).symm

def equalsSign : UInt8 := 61
def colon : UInt8 := 58
def comma : UInt8 := 44
def minusSign : UInt8 := 45

theorem not_in_number (value : Nat) {byte : UInt8} (other : isDigit byte = false) :
    byte ∉ printNat value := by
  intro member
  rw [(print_nat_digits value).2 byte member] at other
  cases other

theorem not_in_int (value : Int32) {byte : UInt8} (other : isDigit byte = false)
    (positive : byte ≠ minusSign) : byte ∉ printInt value := by
  unfold printInt
  split_ifs
  · intro member
    rcases List.mem_cons.mp member with sign | digit
    · exact positive sign
    · exact not_in_number _ other digit
  · exact not_in_number _ other

end DungeonPortfolio.Decimals
