import Stencil.Filter
import Stencil.Number.Reading
import Stencil.Text.Case
import Stencil.Value.Text

/-!
# The filters of every engine

Text filters work on the printed text of their input.  Arithmetic is exact on whole numbers as long
as the result fits 64 bits, and otherwise in floating point.
-/

set_option autoImplicit false

namespace Stencil.Filter

/-- A filter without arguments that changes the printed text of its input. -/
def ofText (f : List Char → List Char) : Filter :=
  plain fun input => .string (String.ofList (f input.text.toList))

/-- The number of items, of entries or of characters. -/
def size : Value → Value
  | .array items => .ofNat items.length
  | .object fields => .ofNat fields.length
  | .string s => .ofNat s.length
  | _ => .ofNat 0

/-- Puts the argument in place of null, `false` and the empty text. -/
def fallback (input arg : Value) : Value :=
  match input with
  | .string s => if s.isEmpty then arg else input
  | input => if input.isFalsy then arg else input

/-- The printed texts of the items of a list with a separator between them, a space unless one is
given. -/
def join : Filter := fun input args => do
  checkArity 0 1 args
  match input with
  | .array items =>
    return .string (((args.head?.map Value.text).getD " ").intercalate (items.map Value.text))
  | input => return input

/-- The first item or character. -/
def first : Value → Value
  | .array items => items.head?.getD .null
  | .string s => (s.toList.head?.map fun c => .string (String.singleton c)).getD .null
  | _ => .null

/-- The last item or character. -/
def last : Value → Value
  | .array items => items.getLast?.getD .null
  | .string s => (s.toList.getLast?.map fun c => .string (String.singleton c)).getD .null
  | _ => .null

/-- The number that a value stands for: a number itself, the number that a text spells, or zero for
null. -/
def number (v : Value) : Except FilterFault Number :=
  match v with
  | .number n => .ok n
  | .null => .ok (.int 0)
  | .string s =>
    let cs := Text.trim s.toList
    match Number.readSigned64? cs, Number.readFloat? cs with
    | some n, _ => .ok (.int n)
    | none, some x => .ok (.float x)
    | none, none => .error (.notANumber v)
  | v => .error (.notANumber v)

/-- The result of a floating point operation, where it is finite. -/
def finite (x : Float) : Except FilterFault Value :=
  if x.isFinite then .ok (.number (.float x)) else .error (.notFinite x)

/-- Exact arithmetic where both sides are signed 64-bit integers and so is the result, and floating
point arithmetic otherwise. -/
def arithmetic (whole : Int → Int → Int) (float : Float → Float → Float) : Filter :=
  binary fun input arg => do
    let a ← number input
    let b ← number arg
    match a.signed64?, b.signed64? with
    | some x, some y =>
      if Number.isSigned64 (whole x y) then return .ofInt (whole x y)
      else finite (float a.toFloat b.toFloat)
    | _, _ => finite (float a.toFloat b.toFloat)

/-- The filters of every engine under their names. -/
def builtin : Dict Filter :=
  Dict.ofList
    [("append", binary fun input arg => return .string (input.text ++ arg.text)),
      ("prepend", binary fun input arg => return .string (arg.text ++ input.text)),
      ("upcase", ofText Text.upper),
      ("downcase", ofText Text.lower),
      ("capitalize", ofText Text.capitalized),
      ("strip", ofText Text.trim),
      ("size", plain size),
      ("default", binary fun input arg => return fallback input arg),
      ("join", join),
      ("first", plain first),
      ("last", plain last),
      ("plus", arithmetic (· + ·) (· + ·)),
      ("minus", arithmetic (· - ·) (· - ·)),
      ("times", arithmetic (· * ·) (· * ·))]

end Stencil.Filter
