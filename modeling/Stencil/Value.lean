import Stencil.Dict
import Stencil.Number

/-!
# Values

Template data is made of null, truth values, numbers, texts, lists and objects.  An object lists its
entries by increasing key.
-/

set_option autoImplicit false

namespace Stencil

/-- A value of template data. -/
inductive Value where
  | null
  | bool (b : Bool)
  | number (n : Number)
  | string (s : String)
  | array (items : List Value)
  | object (fields : List (String × Value))

namespace Value

/-- A whole number as a value. -/
def ofNat (n : Nat) : Value :=
  number (.int n)

/-- A whole number as a value. -/
def ofInt (n : Int) : Value :=
  number (.int n)

/-- Only null and `false` are falsy. -/
def isFalsy : Value → Bool
  | null => true
  | bool false => true
  | _ => false

/-- Everything but null and `false` is truthy, the number zero and the empty text included. -/
def isTruthy (v : Value) : Bool :=
  !v.isFalsy

/-- The text of a string value. -/
def string? : Value → Option String
  | string s => some s
  | _ => none

/-- The entries of an object. -/
def object? : Value → Option (Dict Value)
  | object fields => some fields
  | _ => none

/-- The value as an unsigned 64-bit integer, where it is one. -/
def unsigned64? : Value → Option Nat
  | number n => n.unsigned64?
  | _ => none

/-- An object with the given entries. -/
def ofFields (entries : List (String × Value)) : Value :=
  object (Dict.ofList entries)

mutual

/-- Whether two values are equal when a whole number never equals a floating point number. -/
def same : Value → Value → Bool
  | null, null => true
  | bool a, bool b => a == b
  | number a, number b => a.sameKind b
  | string a, string b => a == b
  | array a, array b => sameItems a b
  | object a, object b => sameFields a b
  | _, _ => false

/-- Whether two lists hold the same values in the same order. -/
def sameItems : List Value → List Value → Bool
  | [], [] => true
  | a :: as, b :: bs => same a b && sameItems as bs
  | _, _ => false

/-- Whether two objects have the same keys with the same values. -/
def sameFields : List (String × Value) → List (String × Value) → Bool
  | [], [] => true
  | (k, a) :: as, (l, b) :: bs => k == l && same a b && sameFields as bs
  | _, _ => false

end

end Value

end Stencil
