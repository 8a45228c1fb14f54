/-!
# The shortest decimal that reads back

A finite binary floating point number stands for every real that rounds to it.  Of the decimals in
that interval the one on the coarsest power-of-ten grid is chosen, and on that grid the one nearest
to the number.  All comparisons are made in exact natural arithmetic.
-/

set_option autoImplicit false

namespace Stencil.Decimal

/-- A decimal `digits * 10 ^ exponent`. -/
structure Numeral where
  digits : Nat
  exponent : Int

/-- A positive binary floating point number `mantissa * 2 ^ exponent`.  It is `lowest` when the next
number below it is only half as far away as the next one above. -/
structure Binary where
  mantissa : Nat
  exponent : Int
  lowest : Bool

/-- The positive number with the given exponent and fraction fields of the 64-bit format. -/
def Binary.ofFields (exponent fraction : Nat) : Binary :=
  if exponent = 0 then ⟨fraction, -1074, false⟩
  else ⟨fraction + 0x10000000000000, (exponent : Int) - 1075, fraction == 0 && exponent != 1⟩

/-- The absolute value of a finite number. -/
def Binary.ofFloat (x : Float) : Binary :=
  let bits := x.toBits.toNat
  .ofFields (bits / 0x10000000000000 % 0x800) (bits % 0x10000000000000)

/-- The point of the grid of multiples of `10 ^ e` that reads back as the number and is nearest to
it, if the grid has one.  Quarter steps of the binary grid are compared with grid points over one
denominator. -/
def Binary.onGrid (x : Binary) (e : Int) : Option Nat :=
  let s := x.exponent - 2
  let unit := Nat.pow 10 e.toNat * Nat.pow 2 (-s).toNat
  let quarter := Nat.pow 2 s.toNat * Nat.pow 10 (-e).toNat
  let value := 4 * x.mantissa * quarter
  let low := (4 * x.mantissa - (if x.lowest then 1 else 2)) * quarter
  let high := (4 * x.mantissa + 2) * quarter
  let readsBack (c : Nat) : Bool :=
    if x.mantissa % 2 = 0 then low ≤ c * unit && c * unit ≤ high else low < c * unit && c * unit < high
  let below := value / unit
  let above := below + 1
  match readsBack below, readsBack above with
  | false, false => none
  | true, false => some below
  | false, true => some above
  | true, true =>
    let short := value - below * unit
    let long := above * unit - value
    if short < long then some below
    else if long < short then some above
    else some (if below % 2 = 0 then below else above)

/-- The first decimal found on the grids from `10 ^ e` downwards, each ten times finer. -/
def Binary.search (x : Binary) : Nat → Int → Numeral
  | 0, _ => ⟨0, 0⟩
  | steps + 1, e =>
    match x.onGrid e with
    | some c => ⟨c, e⟩
    | none => x.search steps (e - 1)

/-- The shortest decimal that reads back as a positive number.  The search begins at a power of ten
above the number, and seventeen digits always suffice. -/
def Binary.shortest (x : Binary) : Numeral :=
  let bits := (x.mantissa.log2 : Int) + 1 + x.exponent
  x.search 24 (bits * 30103 / 100000 + 1)

/-- Which powers of ten of the leading digit are written without an exponent. -/
structure Layout where
  plainFrom : Int
  plainTo : Int

/-- The decimal digits of a natural number. -/
def natText (n : Nat) : String :=
  String.ofList (Nat.toDigits 10 n)

/-- The digits of an integer, with a minus sign in front of a negative one. -/
def intText : Int → String
  | .ofNat n => natText n
  | .negSucc n => "-" ++ natText (n + 1)

/-- Writes a decimal with a point and at least one digit behind it where the layout is plain, and
otherwise with one digit in front of the point and a signed exponent. -/
def Layout.write (layout : Layout) (d : Numeral) : String :=
  let digits := Nat.toDigits 10 d.digits
  let leading := d.exponent + digits.length - 1
  if layout.plainFrom ≤ leading ∧ leading ≤ layout.plainTo then
    if 0 ≤ d.exponent then
      String.ofList (digits ++ List.replicate d.exponent.toNat '0') ++ ".0"
    else if 0 ≤ leading then
      let whole := leading.toNat + 1
      String.ofList (digits.take whole) ++ "." ++ String.ofList (digits.drop whole)
    else
      "0." ++ String.ofList (List.replicate (-leading - 1).toNat '0' ++ digits)
  else
    let mantissa := match digits with
      | [] => ""
      | [d] => String.singleton d
      | d :: rest => String.ofList (d :: '.' :: rest)
    mantissa ++ "e" ++ (if leading < 0 then "-" else "+") ++ natText leading.natAbs

/-- Writes a finite floating point number by its shortest decimal; zero keeps its sign. -/
def Layout.writeFloat (layout : Layout) (x : Float) : String :=
  let sign := if x.toBits.toNat / 0x8000000000000000 = 1 then "-" else ""
  let magnitude := Binary.ofFloat x
  sign ++ (if magnitude.mantissa = 0 then "0.0" else layout.write magnitude.shortest)

end Stencil.Decimal
