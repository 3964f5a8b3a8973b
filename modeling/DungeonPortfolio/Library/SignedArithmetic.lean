import Mathlib.Algebra.Order.Ring.Int

/-!
# Signed arithmetic without overflow

An expression over fixed-width signed numbers. `eval` computes it as the machine
does, every operation wrapping around; `exact` computes it over the integers. A
language that leaves signed overflow undefined gives the expression a meaning
only if no operation leaves the range, and then the two agree.
-/

namespace Library.SignedArithmetic

set_option autoImplicit false

variable {width : Nat}

inductive Expr (width : Nat) where
  | number (value : BitVec width)
  | neg (operand : Expr width)
  | add (left right : Expr width)
  | sub (left right : Expr width)
  | div (left right : Expr width)
  deriving DecidableEq, Repr

namespace Expr

def eval : Expr width → BitVec width
  | .number value => value
  | .neg operand => -operand.eval
  | .add left right => left.eval + right.eval
  | .sub left right => left.eval - right.eval
  | .div left right => left.eval.sdiv right.eval

/-- Division rounds towards zero. -/
def exact : Expr width → Int
  | .number value => value.toInt
  | .neg operand => -operand.exact
  | .add left right => left.exact + right.exact
  | .sub left right => left.exact - right.exact
  | .div left right => left.exact.tdiv right.exact

/-- The exact results of the operations, operands before the operation. -/
def results : Expr width → List Int
  | .number _ => []
  | .neg operand => operand.results ++ [-operand.exact]
  | .add left right => left.results ++ right.results ++ [left.exact + right.exact]
  | .sub left right => left.results ++ right.results ++ [left.exact - right.exact]
  | .div left right => left.results ++ right.results ++ [left.exact.tdiv right.exact]

end Expr

def InRange (width : Nat) (value : Int) : Prop := -2 ^ width ≤ value * 2 ∧ value * 2 < 2 ^ width

instance (value : Int) : Decidable (InRange width value) := inferInstanceAs (Decidable (_ ∧ _))

def Expr.Safe (expr : Expr width) : Prop := ∀ result ∈ expr.results, InRange width result

instance (expr : Expr width) : Decidable expr.Safe :=
  inferInstanceAs (Decidable (∀ result ∈ expr.results, InRange width result))

theorem wraps_to_itself {value : Int} (inside : InRange width value) :
    value.bmod (2 ^ width) = value := by
  apply Int.bmod_eq_of_le_mul_two
  · simpa using inside.1
  · simpa using inside.2

theorem safe_of_append {first second : List Int} {last : Int}
    (safe : ∀ result ∈ first ++ second ++ [last], InRange width result) :
    (∀ result ∈ first, InRange width result) ∧ (∀ result ∈ second, InRange width result) ∧
      InRange width last := by
  simp only [List.append_assoc, List.forall_mem_append, List.forall_mem_singleton] at safe
  exact safe

/-- A machine that does not overflow computes the exact value. -/
theorem eval_of_safe {expr : Expr width} (safe : expr.Safe) : expr.eval.toInt = expr.exact := by
  induction expr with
  | number value => rfl
  | neg operand ih =>
      rcases List.forall_mem_append.mp safe with ⟨before, last⟩
      have inside := last (-operand.exact) (List.mem_singleton_self _)
      rw [Expr.eval, BitVec.toInt_neg, ih before, wraps_to_itself inside, Expr.exact]
  | add left right first second =>
      rcases safe_of_append safe with ⟨before, after, inside⟩
      rw [Expr.eval, BitVec.toInt_add, first before, second after, wraps_to_itself inside,
        Expr.exact]
  | sub left right first second =>
      rcases safe_of_append safe with ⟨before, after, inside⟩
      rw [Expr.eval, BitVec.toInt_sub, first before, second after, wraps_to_itself inside,
        Expr.exact]
  | div left right first second =>
      rcases safe_of_append safe with ⟨before, after, inside⟩
      rw [Expr.eval, BitVec.toInt_sdiv, first before, second after, wraps_to_itself inside,
        Expr.exact]

end Library.SignedArithmetic
