import Stencil.Arena

/-!
# Merging blocks

The levels of a chain of layouts are merged from the template to its last layout, with one map from
names to bodies.  The first body met under a name is the canonical one.  At every other block of the
name the children of that block take the place of the first mark for overridden content in the
canonical body, and the block gets the resulting nodes as its own.
-/

set_option autoImplicit false

namespace Stencil

/-- An arena whose blocks are being merged, and the canonical body of every name met so far. -/
structure Merging where
  arena : Arena
  canonical : Dict BodyId := []

/-- The list with the first marked element replaced by other elements. -/
def substFirst {α : Type} (isMark : α → Bool) (content : List α) : List α → List α
  | [] => []
  | a :: rest => if isMark a then content ++ rest else a :: substFirst isMark content rest

namespace Merging

/-- Merges one block with its canonical body.  A block whose nodes are the canonical ones already was
reached before. -/
def settle (m : Merging) (name : String) (own : BodyId) : Merging :=
  match Dict.find? name m.canonical with
  | none => { m with canonical := Dict.insert name own m.canonical }
  | some target =>
    if target = own ∨ m.arena.body own = m.arena.body target then m
    else
      let merged := substFirst m.arena.isBlockSuper (m.arena.body own) (m.arena.body target)
      { m with arena := (m.arena.setBody target merged).setBody own merged }

/-- Merges the blocks below a body, unless they are more than `n` bodies deep. -/
def mergeIn : Nat → BodyId → Merging → Option Merging
  | 0, _, _ => none
  | n + 1, id, m => (m.arena.body id).foldlM (fun m id =>
    match m.arena.block? id with
    | some (name, own) => mergeIn n own (m.settle name own)
    | none => (m.arena.children id).foldlM (fun m id => mergeIn n id m) m) m

/-- Merges the levels of a chain, given by their bodies from the template to the last layout. -/
def mergeAll (arena : Arena) (roots : List BodyId) : Option Merging :=
  roots.foldlM (fun m root => mergeIn (arena.bodies.size + 1) root m) { arena := arena }

end Merging

end Stencil
