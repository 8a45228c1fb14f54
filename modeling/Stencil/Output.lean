import Stencil.Expr.Eval
import Stencil.Filter

/-!
# The values of outputs

The value of an operand goes through the filters of an output from left to right.  An unknown filter
and a wrong number of arguments are errors where filters are strict, and otherwise leave the value as
it is.
-/

set_option autoImplicit false

namespace Stencil

/-- The filters that outputs can use. -/
structure Filters where
  table : Dict Filter
  /-- Whether unknown filters and wrong numbers of arguments are errors. -/
  strict : Bool := false

/-- Applies the filter of a name. -/
def Filters.apply (filters : Filters) (name : String) (input : Value) (args : List Value) :
    Except Error Value :=
  match Dict.find? name filters.table with
  | none => if filters.strict then .error (.filter name .unknown) else .ok input
  | some filter =>
    match filter input args with
    | .ok v => .ok v
    | .error (.arity min max got) =>
      if filters.strict then .error (.filter name (.arity min max got)) else .ok input
    | .error fault => .error (.filter name fault)

/-- Applies one use of a filter. -/
def FilterCall.apply (filters : Filters) (scope : Scope) (input : Value) (call : FilterCall) :
    Except Error Value := do
  let args ← call.args.mapM (Operand.eval scope)
  filters.apply call.name input args

/-- The value of an output. -/
def Output.eval (filters : Filters) (scope : Scope) (o : Output) : Except Error Value := do
  o.filters.foldlM (FilterCall.apply filters scope) (← o.operand.eval scope)

end Stencil
