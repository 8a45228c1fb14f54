import Stencil.Number

/-!
# Reading numbers

Readers of decimal text with the digits `0` to `9`.  Each takes a whole text, so that it answers
`none` when anything is left over.
-/

set_option autoImplicit false

namespace Stencil.Number

/-- Whether a character is one of the digits `0` to `9`. -/
def isDecimalDigit (c : Char) : Bool :=
  '0' ≤ c && c ≤ '9'

/-- The value of a text of decimal digits. -/
def digitsValue (cs : List Char) : Nat :=
  cs.foldl (fun n c => 10 * n + (c.toNat - '0'.toNat)) 0

/-- A non-empty text of decimal digits. -/
def readNat? (cs : List Char) : Option Nat :=
  if !cs.isEmpty && cs.all isDecimalDigit then some (digitsValue cs) else none

/-- An integer with an optional sign. -/
def readInt? : List Char → Option Int
  | '-' :: cs => (readNat? cs).map fun n => -(n : Int)
  | '+' :: cs => (readNat? cs).map Int.ofNat
  | cs => (readNat? cs).map Int.ofNat

/-- An integer with an optional sign that fits 64 bits with a sign. -/
def readSigned64? (cs : List Char) : Option Int :=
  (readInt? cs).filter isSigned64

/-- A position in a list: digits with an optional plus sign. -/
def readIndex? : List Char → Option Nat
  | '+' :: cs => readNat? cs
  | cs => readNat? cs

/-- The exponent behind a mantissa: nothing, or a letter `e` and an integer. -/
def readExponent? : List Char → Option Int
  | [] => some 0
  | c :: cs => if c = 'e' ∨ c = 'E' then readInt? cs else none

/-- The floating point number nearest to `mantissa * 10 ^ exponent`. -/
def scientific (mantissa : Nat) (exponent : Int) : Float :=
  Float.ofScientific mantissa (decide (exponent < 0)) exponent.natAbs

/-- A decimal without a sign: digits with an optional point among or beside them and an optional
exponent. -/
def readUnsignedFloat? (cs : List Char) : Option Float :=
  let whole := cs.takeWhile isDecimalDigit
  let rest := cs.dropWhile isDecimalDigit
  let (fraction, rest) := match rest with
    | '.' :: rest => (rest.takeWhile isDecimalDigit, rest.dropWhile isDecimalDigit)
    | rest => ([], rest)
  if whole.isEmpty && fraction.isEmpty then none
  else (readExponent? rest).map fun e => scientific (digitsValue (whole ++ fraction)) (e - fraction.length)

/-- A finite decimal with an optional sign. -/
def readFloat? (cs : List Char) : Option Float :=
  let signed := match cs with
    | '-' :: cs => (readUnsignedFloat? cs).map fun x => -x
    | '+' :: cs => readUnsignedFloat? cs
    | cs => readUnsignedFloat? cs
  signed.filter Float.isFinite

end Stencil.Number
