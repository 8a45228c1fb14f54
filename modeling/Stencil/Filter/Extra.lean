import Stencil.Filter
import Stencil.Value.Text

/-!
# Further filters

Filters that an engine has only under the names they are registered under.
-/

set_option autoImplicit false

namespace Stencil

/-- The filters that can be registered. -/
inductive FilterKind where
  | wrap
  | boom
  | between
  | args
deriving DecidableEq

namespace FilterKind

/-- The kind that a word names; every unknown word names `args`. -/
def ofWord (w : String) : FilterKind :=
  match w with
  | "wrap" => wrap
  | "boom" => boom
  | "between" => between
  | _ => args

/-- Puts a text on both sides of the input, which counts as empty unless it is a text. -/
def wrapped (input edge : Value) : Except FilterFault Value :=
  match edge with
  | .string edge => .ok (.string (edge ++ input.string?.getD "" ++ edge))
  | _ => .error (.custom "edge must be text")

/-- The filter of a kind: `wrap` puts its argument around the input, `boom` always fails, `between`
counts its arguments, and `args` lists the input and the arguments. -/
def filter : FilterKind → Filter
  | wrap => Filter.binary wrapped
  | boom => fun input _ => .error (.custom input.text)
  | between => fun _ args => do
    Filter.checkArity 1 3 args
    return .ofNat args.length
  | args => fun input args => .ok (.array (input :: args))

end FilterKind

end Stencil
