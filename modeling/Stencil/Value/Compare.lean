import Stencil.Value.Text

/-!
# Comparing values

Equality, order and containment as conditions see them.  Numbers are compared as floating point
numbers, texts by their characters, and lists item by item.
-/

set_option autoImplicit false

namespace Stencil.Value

mutual

/-- Whether two values are equal, with numbers compared by value inside lists but not inside
objects. -/
def equals : Value → Value → Bool
  | number a, number b => a.toFloat == b.toFloat
  | array a, array b => equalItems a b
  | a, b => a.same b

/-- Whether two lists are equal item by item. -/
def equalItems : List Value → List Value → Bool
  | [], [] => true
  | a :: as, b :: bs => equals a b && equalItems as bs
  | _, _ => false

end

/-- The order of two floating point numbers, where they have one. -/
def compareFloats? (a b : Float) : Option Ordering :=
  if a < b then some .lt else if a == b then some .eq else if b < a then some .gt else none

/-- The order of two texts by code points. -/
def compareTexts (a b : String) : Ordering :=
  if a < b then .lt else if a = b then .eq else .gt

/-- The order of two values: only two numbers or two texts have one. -/
def compare? : Value → Value → Option Ordering
  | number a, number b => compareFloats? a.toFloat b.toFloat
  | string a, string b => some (compareTexts a b)
  | _, _ => none

/-- Whether a value contains another: a text by the other's printed text, a list by an equal item,
and an object by a key. -/
def contains (haystack needle : Value) : Bool :=
  match haystack with
  | string s => s.contains needle.text
  | array items => items.any (equals · needle)
  | object fields => Dict.contains needle.text fields
  | _ => false

end Stencil.Value
