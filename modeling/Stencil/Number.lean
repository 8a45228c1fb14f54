import Stencil.Decimal.Shortest

/-!
# Numbers

Template data has whole numbers and floating point numbers, and keeps them apart: `3` and `3.0` are
different values that compare as equal.  A whole number lies between the least signed and the
greatest unsigned 64-bit integer.
-/

set_option autoImplicit false

namespace Stencil

/-- A number of template data. -/
inductive Number where
  | int (n : Int)
  | float (x : Float)

namespace Number

/-- Whether an integer fits 64 bits with a sign. -/
def isSigned64 (n : Int) : Bool :=
  decide (-0x8000000000000000 ≤ n ∧ n < 0x8000000000000000)

/-- Whether an integer fits 64 bits without a sign. -/
def isUnsigned64 (n : Int) : Bool :=
  decide (0 ≤ n ∧ n < 0x10000000000000000)

/-- The number as a signed 64-bit integer, where it is one. -/
def signed64? : Number → Option Int
  | int n => if isSigned64 n then some n else none
  | float _ => none

/-- The number as an unsigned 64-bit integer, where it is one. -/
def unsigned64? : Number → Option Nat
  | int n => if isUnsigned64 n then some n.toNat else none
  | float _ => none

/-- The floating point number nearest to the number. -/
def toFloat : Number → Float
  | int n => Float.ofInt n
  | float x => x

/-- The whole part of a floating point number, clamped to the signed 64-bit integers. -/
def truncateSigned (x : Float) : Int :=
  if x < 0 then -(min (-x).toUInt64.toNat 0x8000000000000000 : Nat)
  else (min x.toUInt64.toNat 0x7FFFFFFFFFFFFFFF : Nat)

/-- The whole part of a floating point number, clamped to the unsigned 64-bit integers. -/
def truncateUnsigned (x : Float) : Nat :=
  x.toUInt64.toNat

/-- Whether two numbers are of one kind and equal. -/
def sameKind : Number → Number → Bool
  | int a, int b => a == b
  | float a, float b => a == b
  | _, _ => false

/-- Floating point numbers are written plainly from hundred-thousandths up to sixteen digits before
the point, and with an exponent outside. -/
def layout : Decimal.Layout :=
  ⟨-5, 15⟩

/-- The text of a number. -/
def text : Number → String
  | int n => Decimal.intText n
  | float x => layout.writeFloat x

end Number

end Stencil
