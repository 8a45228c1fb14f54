import Stencil.Value
import Stencil.Number.Reading

/-!
# Parts of values

Reading a property by name, an element by position, and the items that a loop visits.
-/

set_option autoImplicit false

namespace Stencil.Value

/-- The property of a value under a key.  Objects and lists have a `size` and lists a `first` and a
`last`, but an entry of an object comes before the helper of the same name; a list is also indexed
by a decimal key. -/
def property? (v : Value) (key : String) : Option Value :=
  match v with
  | object fields =>
    match Dict.find? key fields with
    | some value => some value
    | none => if key = "size" then some (ofNat fields.length) else none
  | array items =>
    if key = "size" then some (ofNat items.length)
    else if key = "first" then items.head?
    else if key = "last" then items.getLast?
    else (Number.readIndex? key.toList).bind fun i => items[i]?
  | string s => if key = "size" then some (ofNat s.length) else none
  | _ => none

/-- The element of a list at a position, counted from the end when it is negative. -/
def element? (items : List Value) (i : Int) : Option Value :=
  let i := if i < 0 then items.length + i else i
  if i < 0 then none else items[i.toNat]?

/-- The part of a value under an index: an element of a list by a whole number, or a property by a
text. -/
def index? (v key : Value) : Option Value :=
  match v, key with
  | array items, number n => n.signed64?.bind (element? items)
  | v, string key => v.property? key
  | _, _ => none

/-- The items that a loop over the value visits: an object gives pairs of key and value, null,
`false` and the empty text give nothing, and any other single value gives itself. -/
def items : Value → List Value
  | array items => items
  | object fields => fields.map fun (k, v) => array [string k, v]
  | null => []
  | bool false => []
  | string s => if s.isEmpty then [] else [string s]
  | v => [v]

end Stencil.Value
