import Stencil.Error

/-!
# Filters

A filter is a function of a value and its arguments that gives a value or tells why it has none.  A
filter that checks its arguments does so before anything else.
-/

set_option autoImplicit false

namespace Stencil

/-- A function that outputs pass values through. -/
abbrev Filter := Value → List Value → Except FilterFault Value

namespace Filter

/-- Fails unless the number of arguments lies between two bounds. -/
def checkArity (min max : Nat) (args : List Value) : Except FilterFault Unit :=
  if min ≤ args.length ∧ args.length ≤ max then .ok () else .error (.arity min max args.length)

/-- A filter without arguments. -/
def plain (f : Value → Value) : Filter := fun input args => do
  checkArity 0 0 args
  return f input

/-- A filter with one argument. -/
def binary (f : Value → Value → Except FilterFault Value) : Filter := fun input args =>
  match args with
  | [arg] => f input arg
  | args => .error (.arity 1 1 args.length)

end Filter

end Stencil
