import Stencil.Options

/-!
# Scopes

A scope is a chain of frames of variables with the registers beside it.  A variable is looked up
from the innermost frame outwards.  Registers keep what an engine remembers during one rendering, and
templates cannot read them.
-/

set_option autoImplicit false

namespace Stencil

/-- The variables that templates see, and the registers that they do not see. -/
structure Scope where
  /-- The outermost frame, which is never removed. -/
  root : Dict Value
  /-- The frames inside the root, innermost first. -/
  inner : List (Dict Value) := []
  registers : Dict Value := []
  /-- Whether an undefined variable is an error. -/
  strict : Bool := false

namespace Scope

/-- The scope whose root frame holds the data. -/
def ofData (data : Dict Value) (options : Options) : Scope :=
  { root := data, strict := options.strictVariables }

/-- The frames from the innermost to the root. -/
def frames (s : Scope) : List (Dict Value) :=
  s.inner ++ [s.root]

/-- The number of frames. -/
def depth (s : Scope) : Nat :=
  s.inner.length + 1

/-- The value of a variable in the innermost frame that binds it. -/
def find? (s : Scope) (name : String) : Option Value :=
  s.inner.findSome? (Dict.find? name) <|> Dict.find? name s.root

/-- Looking a variable up walks the frames from the innermost to the root. -/
theorem find?_eq_findSome?_frames (s : Scope) (name : String) :
    s.find? name = s.frames.findSome? (Dict.find? name) := by
  cases h : s.inner.findSome? (Dict.find? name) <;> simp [find?, frames, List.findSome?_append, h]

/-- Binds a variable in the innermost frame. -/
def set (s : Scope) (name : String) (value : Value) : Scope :=
  match s.inner with
  | [] => { s with root := Dict.insert name value s.root }
  | frame :: outer => { s with inner := Dict.insert name value frame :: outer }

/-- Binds a variable in the root frame, where it outlives every other frame. -/
def setRoot (s : Scope) (name : String) (value : Value) : Scope :=
  { s with root := Dict.insert name value s.root }

/-- Adds an innermost frame. -/
def push (s : Scope) (frame : Dict Value) : Scope :=
  { s with inner := frame :: s.inner }

/-- Removes the innermost frame, unless only the root is left. -/
def pop (s : Scope) : Scope :=
  { s with inner := s.inner.tail }

/-- The value in a register. -/
def register? (s : Scope) (key : String) : Option Value :=
  Dict.find? key s.registers

/-- Sets a register. -/
def setRegister (s : Scope) (key : String) (value : Value) : Scope :=
  { s with registers := Dict.insert key value s.registers }

/-- The object in a register; a register that holds none counts as an empty object. -/
def registerObject (s : Scope) (key : String) : Dict Value :=
  ((s.register? key).bind Value.object?).getD []

/-- Inserts an entry into the object in a register. -/
def insertInRegister (s : Scope) (key name : String) (value : Value) : Scope :=
  s.setRegister key (.object (Dict.insert name value (s.registerObject key)))

end Scope

end Stencil
