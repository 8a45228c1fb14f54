import Stencil.Node

/-!
# Arenas

The nodes of one or more templates are stored in an arena and refer to each other through handles.
A tag holds handles of bodies, and a body is a list of handles of nodes that can be replaced.  The
tree below a body is read back by unfolding it.
-/

set_option autoImplicit false

namespace Stencil

/-- The handle of a node. -/
structure NodeId where
  index : Nat
deriving DecidableEq

/-- The handle of a body. -/
structure BodyId where
  index : Nat
deriving DecidableEq

/-- A stored node, which holds its bodies by handle. -/
inductive Cell where
  | literal (token : Token)
  | output (output : Output) (token : Token)
  | tag (head : Head) (bodies : List BodyId) (token : Token)

/-- The bodies of a stored node. -/
def Cell.bodies : Cell → List BodyId
  | tag _ bodies _ => bodies
  | _ => []

/-- The name and the body of a stored node that stands for a part of a layout. -/
def Cell.block? : Cell → Option (String × BodyId)
  | tag head bodies _ =>
    match head.block?, bodies with
    | some name, body :: _ => some (name, body)
    | _, _ => none
  | _ => none

/-- Whether a stored node is the mark that stands for the content of an overridden block. -/
def Cell.isBlockSuper : Cell → Bool
  | output o _ => o.isBlockSuper
  | _ => false

/-- Storage of nodes and bodies. -/
structure Arena where
  cells : Array Cell := #[]
  bodies : Array (List NodeId) := #[]

namespace Arena

/-- The node behind a handle. -/
def cell? (a : Arena) (id : NodeId) : Option Cell :=
  a.cells[id.index]?

/-- The nodes of the body behind a handle. -/
def body (a : Arena) (id : BodyId) : List NodeId :=
  (a.bodies[id.index]?).getD []

/-- Stores a node. -/
def alloc (a : Arena) (cell : Cell) : Arena × NodeId :=
  ({ a with cells := a.cells.push cell }, ⟨a.cells.size⟩)

/-- Stores a body. -/
def allocBody (a : Arena) (nodes : List NodeId) : Arena × BodyId :=
  ({ a with bodies := a.bodies.push nodes }, ⟨a.bodies.size⟩)

/-- Replaces the nodes of a body. -/
def setBody (a : Arena) (id : BodyId) (nodes : List NodeId) : Arena :=
  { a with bodies := a.bodies.setIfInBounds id.index nodes }

/-- The bodies of a node. -/
def children (a : Arena) (id : NodeId) : List BodyId :=
  ((a.cell? id).map Cell.bodies).getD []

/-- The name and the body of a node that stands for a part of a layout. -/
def block? (a : Arena) (id : NodeId) : Option (String × BodyId) :=
  (a.cell? id).bind Cell.block?

/-- Whether a node is the mark that stands for the content of an overridden block. -/
def isBlockSuper (a : Arena) (id : NodeId) : Bool :=
  (a.cell? id).any Cell.isBlockSuper

mutual

/-- Stores a tree, bodies before the tag that holds them. -/
def storeNode : Node → Arena → Arena × NodeId
  | .literal t, a => a.alloc (.literal t)
  | .output o t, a => a.alloc (.output o t)
  | .tag head bodies t, a =>
    let (a, ids) := storeBodies bodies a
    a.alloc (.tag head ids t)

/-- Stores a sequence of trees. -/
def storeNodes : List Node → Arena → Arena × List NodeId
  | [], a => (a, [])
  | n :: rest, a =>
    let (a, id) := storeNode n a
    let (a, ids) := storeNodes rest a
    (a, id :: ids)

/-- Stores some bodies. -/
def storeBodies : List (List Node) → Arena → Arena × List BodyId
  | [], a => (a, [])
  | body :: rest, a =>
    let (a, nodes) := storeNodes body a
    let (a, id) := a.allocBody nodes
    let (a, ids) := storeBodies rest a
    (a, id :: ids)

end

/-- Stores a sequence of trees as a body. -/
def storeBody (nodes : List Node) (a : Arena) : Arena × BodyId :=
  let (a, ids) := storeNodes nodes a
  a.allocBody ids

/-- The trees below a body, unless they are more than `n` bodies deep. -/
def unfold (a : Arena) : Nat → BodyId → Option (List Node)
  | 0, _ => none
  | n + 1, id => (a.body id).mapM fun id =>
    match a.cell? id with
    | none => none
    | some (.literal t) => some (.literal t)
    | some (.output o t) => some (.output o t)
    | some (.tag head bodies t) => (bodies.mapM (a.unfold n)).map fun bodies => .tag head bodies t

/-- The trees below a body, unless a body holds itself: no path is longer than the number of bodies. -/
def tree? (a : Arena) (id : BodyId) : Option (List Node) :=
  a.unfold (a.bodies.size + 1) id

end Arena

end Stencil
