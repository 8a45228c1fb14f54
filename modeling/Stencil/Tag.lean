import Stencil.Error

/-!
# Tags

A head holds what was read from the arguments of one tag.  What a tag does when it is rendered
depends on its head and its bodies alone.  The tags that a user adds are rendered by scripts, which
use the scope, the bodies and other templates one step after the other.
-/

set_option autoImplicit false

namespace Stencil

/-- The arguments of a loop. -/
structure Loop where
  var : String
  collection : Operand
  reversed : Bool := false
  limit : Option Operand := none
  offset : Option Operand := none

/-- What a tag that a user added does when it is rendered.  Each step goes on with what the one before
it gave, be that a result or an error, which the script may take for its own or not. -/
inductive Script where
  /-- Renders a text. -/
  | done (text : String)
  | fail (error : Error)
  /-- Takes the value of an output. -/
  | eval (output : Output) (k : Except Error Value → Script)
  /-- Binds a variable of the innermost frame. -/
  | set (name : String) (value : Value) (next : Script)
  /-- Binds a variable of the root frame. -/
  | setRoot (name : String) (value : Value) (next : Script)
  /-- Takes the entries of a register. -/
  | entries (register : String) (k : Dict Value → Script)
  /-- Adds an entry to a register. -/
  | insert (register key : String) (value : Value) (next : Script)
  /-- Follows a script within a further frame. -/
  | within (frame : Dict Value) (inner : Script) (k : Except Error String → Script)
  /-- Renders a body of the tag, or nothing where there is none. -/
  | body (i : Nat) (k : Except Error String → Script)
  /-- Renders another template. -/
  | inclusion (name : String) (k : Except Error String → Script)

/-- What was read from the arguments of a tag. -/
inductive Head where
  /-- Names a layout and renders nothing. -/
  | layout (name : String)
  | block (name : String)
  | assign (name : String) (value : Output)
  | capture (name : String)
  /-- One condition for each body; a further body is for the case that none holds. -/
  | conditional (conditions : List Condition)
  /-- A second body is for the case that the condition holds. -/
  | negated (condition : Condition)
  /-- A second body is for an empty collection. -/
  | loop (loop : Loop)
  | signal (control : LoopControl)
  /-- Renders a fixed text. -/
  | text (text : String)
  | inclusion (name : Operand) (params : List (String × Operand))
  /-- A tag that a user added, and the layout that it names. -/
  | script (script : Script) (layout : Option String)
  /-- A part of a layout that is rendered by a script. -/
  | region (script : Script) (name : String)

/-- The name of the part of a layout that a tag stands for. -/
def Head.block? : Head → Option String
  | block name => some name
  | region _ name => some name
  | _ => none

/-- The layout that a tag names. -/
def Head.layout? : Head → Option String
  | layout name => some name
  | script _ name? => name?
  | _ => none

end Stencil
