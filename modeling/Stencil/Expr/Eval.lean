import Stencil.Expr.Reader
import Stencil.Scope
import Stencil.Value.Access
import Stencil.Value.Compare

/-!
# The values of expressions

Operands and conditions are evaluated in a scope from left to right.  A path ends as soon as a step
has no value, and the keys behind that step are not evaluated.
-/

set_option autoImplicit false

namespace Stencil

/-- The end of a range that a value gives: the whole part of a number, clamped to 64 bits, or the
integer that a text spells. -/
def rangeBound (v : Value) : Except Error Int :=
  match v with
  | .number n => .ok (n.signed64?.getD (Number.truncateSigned n.toFloat))
  | .string s =>
    match Number.readSigned64? (Text.trim s.toList) with
    | some n => .ok n
    | none => .error (.render (.badRangeBound v) none)
  | v => .error (.render (.badRangeBound v) none)

/-- The integers from the first to the last, both included. -/
def interval (first last : Int) : List Value :=
  (List.range (last - first + 1).toNat).map fun i : Nat => Value.ofInt (first + i)

mutual

/-- The value of an operand.  An undefined variable is null, or an error in a strict scope. -/
def Operand.eval (scope : Scope) : Operand → Except Error Value
  | .literal value => .ok value
  | .range first last => do
    let first ← rangeBound (← first.eval scope)
    let last ← rangeBound (← last.eval scope)
    return .array (interval first last)
  | .path path => do
    match ← path.find? scope with
    | some v => return v
    | none => if scope.strict then throw (.render (.undefinedVariable path) none) else return .null

/-- The value at the end of a path, where every step of it has one. -/
def Path.find? (scope : Scope) : Path → Except Error (Option Value)
  | .var name => .ok (scope.find? name)
  | .lookup name => do return scope.find? (← name.eval scope).text
  | .field base name => do
    match ← base.find? scope with
    | none => return none
    | some v => return v.property? name
  | .item base key => do
    match ← base.find? scope with
    | none => return none
    | some v => return v.index? (← key.eval scope)

end

/-- Whether a comparison holds between two values; an order between values that have none never
holds. -/
def Comparison.holds (comparison : Comparison) (left right : Value) : Bool :=
  match comparison with
  | equal => left.equals right
  | notEqual => !left.equals right
  | less => (left.compare? right).any Ordering.isLT
  | greater => (left.compare? right).any Ordering.isGT
  | lessEqual => (left.compare? right).any Ordering.isLE
  | greaterEqual => (left.compare? right).any Ordering.isGE
  | contains => left.contains right

/-- Whether a condition holds.  The right side of a connective is evaluated only when the left side
leaves the answer open. -/
def Condition.eval (scope : Scope) : Condition → Except Error Bool
  | test operand => do return (← operand.eval scope).isTruthy
  | compare left comparison right => do
    let left ← left.eval scope
    let right ← right.eval scope
    return comparison.holds left right
  | and left right => do if ← left.eval scope then right.eval scope else return false
  | or left right => do if ← left.eval scope then return true else right.eval scope

/-- The value of an operand given as text. -/
def evalOperand (source : String) (scope : Scope) : Except Error Value := do
  let operand ← ExprFault.alone (Operand.read source)
  operand.eval scope

/-- Whether a condition given as text holds. -/
def evalCondition (source : String) (scope : Scope) : Except Error Bool := do
  let condition ← ExprFault.alone (Condition.read source)
  condition.eval scope

end Stencil
