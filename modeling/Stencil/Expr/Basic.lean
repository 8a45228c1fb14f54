import Stencil.Json.Writer

/-!
# Expressions

Operands produce values, outputs pass a value through filters, and conditions are true or false.
-/

set_option autoImplicit false

namespace Stencil

mutual

/-- A term that produces a value. -/
inductive Operand where
  | literal (value : Value)
  | range (first last : Operand)
  | path (path : Path)

/-- A way to a value from a variable, read from its end: the steps before it come first. -/
inductive Path where
  | var (name : String)
  | lookup (name : Operand)
  | field (base : Path) (name : String)
  | item (base : Path) (key : Operand)

end

/-- One step of a path. -/
inductive Segment where
  | key (name : String)
  | index (operand : Operand)

/-- The steps of a path from the first to the last. -/
def Path.segments : Path → List Segment
  | var name => [.key name]
  | lookup name => [.index name]
  | field base name => base.segments ++ [.key name]
  | item base key => base.segments ++ [.index key]

mutual

/-- The source text of an operand, with literals as JSON. -/
def Operand.text : Operand → String
  | .literal value => Json.text value
  | .range first last => "(" ++ first.text ++ ".." ++ last.text ++ ")"
  | .path path => path.text

/-- The source text of a path. -/
def Path.text : Path → String
  | .var name => name
  | .lookup name => "[" ++ name.text ++ "]"
  | .field base name => base.text ++ "." ++ name
  | .item base key => base.text ++ "[" ++ key.text ++ "]"

end

/-- The use of a filter, with its arguments. -/
structure FilterCall where
  name : String
  args : List Operand

/-- An operand and the filters that its value goes through. -/
structure Output where
  /-- The source text without white space around it. -/
  source : String
  operand : Operand
  filters : List FilterCall

/-- Whether an output is the mark that stands for the content of an overridden block. -/
def Output.isBlockSuper (o : Output) : Bool :=
  match o.operand, o.filters with
  | .path (.field (.var "block") "super"), [] => true
  | _, _ => false

/-- The comparisons of conditions. -/
inductive Comparison where
  | equal
  | notEqual
  | less
  | greater
  | lessEqual
  | greaterEqual
  | contains
deriving DecidableEq

/-- The sign of a comparison. -/
def Comparison.sign : Comparison → String
  | equal => "=="
  | notEqual => "!="
  | less => "<"
  | greater => ">"
  | lessEqual => "<="
  | greaterEqual => ">="
  | contains => "contains"

/-- A statement that is true or false. -/
inductive Condition where
  | test (operand : Operand)
  | compare (left : Operand) (comparison : Comparison) (right : Operand)
  | and (left right : Condition)
  | or (left right : Condition)

end Stencil
