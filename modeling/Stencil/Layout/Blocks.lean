import Stencil.Node

/-!
# The blocks of a template

A template defines each of its blocks once.  The blocks are listed level by level from the outside,
and of the bodies inside one sequence the last is listed first.
-/

set_option autoImplicit false

namespace Stencil

namespace Node

/-- The blocks of a sequence that stand directly in it. -/
def directBlocks (nodes : List Node) : List (String × Token) :=
  nodes.filterMap fun n => n.block?.map fun name => (name, n.token)

mutual

/-- The blocks inside the bodies of a node. -/
def blocksInside : Node → List (String × Token)
  | tag _ bodies _ => blocksInBodies bodies
  | _ => []

/-- The blocks inside the bodies of some nodes, those of later nodes first. -/
def blocksInsideAll : List Node → List (String × Token)
  | [] => []
  | n :: rest => blocksInsideAll rest ++ blocksInside n

/-- The blocks in some bodies, those in later bodies first. -/
def blocksInBodies : List (List Node) → List (String × Token)
  | [] => []
  | body :: rest => blocksInBodies rest ++ (directBlocks body ++ blocksInsideAll body)

end

/-- All blocks of a sequence. -/
def blocks (nodes : List Node) : List (String × Token) :=
  directBlocks nodes ++ blocksInsideAll nodes

end Node

/-- The first of some named things whose name was seen before. -/
def firstRepeated (seen : List String) : List (String × Token) → Option (String × Token)
  | [] => none
  | (name, t) :: rest => if seen.contains name then some (name, t) else firstRepeated (name :: seen) rest

/-- Fails when a block is defined twice. -/
def checkBlocks (nodes : List Node) : Except Error Unit :=
  match firstRepeated [] (Node.blocks nodes) with
  | none => .ok ()
  | some (name, t) => .error (.atToken (.duplicateBlock name) t)

end Stencil
