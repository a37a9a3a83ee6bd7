import IocpServer.Library.FloatArithmetic
import Mathlib.Data.Prod.Lex
import Mathlib.Order.WithBot
import Mathlib.Algebra.Order.Field.Basic
import Mathlib.Algebra.Order.Field.Rat
import Mathlib.Tactic.NormNum

/-!
# The values of floating-point numbers

A floating-point number that is not a NaN has a value, a rational or an
infinity, and the comparisons compare values.  Of the quotients of two
integers a program relies on little: they are numbers, they are below the
largest number, and those of zero are zero.
-/

namespace IocpServer.Library

/-- What the comparisons and the quotients of integers mean. -/
class FloatValues (Number : Type) [FloatArithmetic Number] where
  /-- The number is not a NaN. -/
  IsNumber : Number → Prop
  value : Number → WithBot (WithTop ℚ)
  less_iff :
    ∀ {left right : Number}, IsNumber left → IsNumber right →
      (FloatArithmetic.less left right = true ↔ value left < value right)
  equal_iff :
    ∀ {left right : Number}, IsNumber left → IsNumber right →
      (FloatArithmetic.equal left right = true ↔ value left = value right)
  largest_number : IsNumber FloatArithmetic.largest
  zero_number : IsNumber (FloatArithmetic.ofInt 0)
  quotient_number :
    ∀ (numerator : Int32) {denominator : Int32}, denominator ≠ 0 →
      IsNumber
        (FloatArithmetic.divide
          (FloatArithmetic.ofInt numerator.toInt)
          (FloatArithmetic.ofInt denominator.toInt))
  quotient_lt_largest :
    ∀ (numerator : Int32) {denominator : Int32}, denominator ≠ 0 →
      value
          (FloatArithmetic.divide
            (FloatArithmetic.ofInt numerator.toInt)
            (FloatArithmetic.ofInt denominator.toInt)) <
        value FloatArithmetic.largest
  quotient_of_zero :
    ∀ {denominator : Int32}, denominator ≠ 0 →
      value
          (FloatArithmetic.divide
            (FloatArithmetic.ofInt 0)
            (FloatArithmetic.ofInt denominator.toInt)) =
        ((0 : ℚ) : WithTop ℚ)

/-- A quotient of integers is not larger than its numerator. -/
theorem div_le_abs (numerator : Int) {denominator : Int}
    (some : denominator ≠ 0) :
    (numerator : ℚ) / denominator ≤ |(numerator : ℚ)| := by
  have one : 1 ≤ |(denominator : ℚ)| := by
    exact_mod_cast Int.one_le_abs some
  calc
    (numerator : ℚ) / denominator ≤ |(numerator : ℚ) / denominator| :=
      le_abs_self _
    _ = |(numerator : ℚ)| / |(denominator : ℚ)| := abs_div _ _
    _ ≤ |(numerator : ℚ)| := div_le_self (abs_nonneg _) one

/-- The rationals as their own values. -/
@[reducible]
def exactValues : @FloatValues ℚ exactArithmetic :=
  letI := exactArithmetic
  { IsNumber _ := True
    value number := ((number : WithTop ℚ) : WithBot (WithTop ℚ))
    less_iff := by
      intro left right _ _
      rw [WithBot.coe_lt_coe, WithTop.coe_lt_coe]
      exact decide_eq_true_iff
    equal_iff := by
      intro left right _ _
      rw [WithBot.coe_inj, WithTop.coe_inj]
      exact decide_eq_true_iff
    largest_number := trivial
    zero_number := trivial
    quotient_number _ _ _ := trivial
    quotient_lt_largest := by
      intro numerator denominator some
      have bound := numerator.toInt_lt
      have least := numerator.le_toInt
      have notZero : denominator.toInt ≠ 0 := by
        intro zero
        exact some (Int32.toInt_inj.mp zero)
      have small : |(numerator.toInt : ℚ)| ≤ 2 ^ 31 := by
        exact_mod_cast abs_le.mpr ⟨least, bound.le⟩
      rw [WithBot.coe_lt_coe, WithTop.coe_lt_coe]
      calc
        (numerator.toInt : ℚ) / denominator.toInt ≤
            |(numerator.toInt : ℚ)| :=
          div_le_abs _ notZero
        _ ≤ 2 ^ 31 := small
        _ < FloatArithmetic.largest := by
          change (2 ^ 31 : ℚ) < 340282346638528859811704183484516925440
          norm_num
    quotient_of_zero := by
      intro denominator _
      rw [WithBot.coe_inj, WithTop.coe_inj]
      exact zero_div _ }

end IocpServer.Library
