import Mathlib.Data.Rat.Defs
import Mathlib.Algebra.Order.Ring.Unbundled.Rat

/-!
# What a program uses of its floating-point numbers

Floating point is a parameter.  `Number` is the type of the doubles; a value of
type `float` is one of them, so that widening leaves it as it is.
-/

namespace IocpServer.Library

/-- The conversions, the comparisons and the division of `float`. -/
class FloatArithmetic (Number : Type) where
  /-- An integer as a `float`. -/
  ofInt : Int → Number
  /-- `std::numeric_limits<float>::max()`. -/
  largest : Number
  divide : Number → Number → Number
  less : Number → Number → Bool
  equal : Number → Number → Bool
  isFinite : Number → Bool
  /-- A double as a `float`. -/
  narrow : Number → Number
  /-- A double as an `int`. -/
  truncate : Number → Int32

/--
Exact arithmetic.  It agrees with floating point where every number that
comes up is a small multiple of a power of two.
-/
@[reducible]
def exactArithmetic : FloatArithmetic ℚ where
  ofInt number := number
  largest := 340282346638528859811704183484516925440
  divide left right := left / right
  less left right := decide (left < right)
  equal left right := decide (left = right)
  isFinite _ := true
  narrow number := number
  truncate number := Int32.ofInt (number.num.tdiv number.den)

end IocpServer.Library
