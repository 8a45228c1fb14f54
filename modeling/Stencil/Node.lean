import Stencil.Tag

/-!
# Nodes

A template is a sequence of nodes: literal text, outputs, and tags with the bodies they claimed.
-/

set_option autoImplicit false

namespace Stencil

/-- A node of a template and the token it was read from. -/
inductive Node where
  | literal (token : Token)
  | output (output : Output) (token : Token)
  | tag (head : Head) (bodies : List (List Node)) (token : Token)

namespace Node

/-- The token that a node was read from. -/
def token : Node → Token
  | literal t => t
  | output _ t => t
  | tag _ _ t => t

/-- The bodies of a node in source order. -/
def bodies : Node → List (List Node)
  | tag _ bodies _ => bodies
  | _ => []

/-- The head of a tag. -/
def head? : Node → Option Head
  | tag head _ _ => some head
  | _ => none

/-- The name of the part of a layout that a node stands for. -/
def block? (n : Node) : Option String :=
  n.head?.bind Head.block?

/-- The layout that a node names. -/
def layout? (n : Node) : Option String :=
  n.head?.bind Head.layout?

/-- A margin of two blanks for each level. -/
def margin (depth : Nat) : String :=
  String.ofList (List.replicate (2 * depth) ' ')

mutual

/-- One line for a node and, below it and further to the right, the lines of its bodies. -/
def outline (depth : Nat) : Node → String
  | literal t => margin depth ++ Text.quoted t.value ++ "\n"
  | output o _ => margin depth ++ "\x7b\x7b" ++ o.source ++ "\x7d\x7d\n"
  | tag _ bodies t =>
    margin depth ++ "\x7b% " ++ t.value ++ " %\x7d\n" ++ outlineBodies (depth + 1) bodies

/-- The lines of some nodes. -/
def outlineNodes (depth : Nat) : List Node → String
  | [] => ""
  | n :: rest => outline depth n ++ outlineNodes depth rest

/-- The lines of some bodies. -/
def outlineBodies (depth : Nat) : List (List Node) → String
  | [] => ""
  | body :: rest => outlineNodes depth body ++ outlineBodies depth rest

end

end Node

end Stencil
