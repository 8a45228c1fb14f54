import Stencil.Layout.Blocks
import Stencil.Layout.Chain
import Stencil.Layout.Merge

/-!
# Templates

A template is an arena with a root body and the tree that the root unfolds to.  It is made from
tokens by reading every level of its chain of layouts into one arena and merging their blocks; the
root is that of the last layout.
-/

set_option autoImplicit false

namespace Stencil

/-- A template with its layouts resolved. -/
structure Template where
  arena : Arena
  root : BodyId
  /-- The top-level nodes in source order. -/
  nodes : List Node
  tree?_root : arena.tree? root = some nodes

namespace Template

/-- The template below a body of an arena, if its tree is finite. -/
def ofArena (arena : Arena) (root : BodyId) : Except Error Template :=
  match h : arena.tree? root with
  | some nodes => .ok ⟨arena, root, nodes, h⟩
  | none => .error .tooDeep

/-- An indented list of the nodes of a template, one a line. -/
def outline (t : Template) : String :=
  Node.outlineNodes 0 t.nodes

/-- Stores some levels in one arena, in order. -/
def storeLevels : List (List Node) → Arena → Arena × List BodyId
  | [], a => (a, [])
  | nodes :: rest, a =>
    let (a, root) := Arena.storeBody nodes a
    let (a, roots) := storeLevels rest a
    (a, root :: roots)

/-- The nodes of one level, which defines none of its blocks twice. -/
def readLevel (tags : Dict TagKind) (tokens : List Token) : Except Error (List Node) := do
  let nodes ← Node.readAll tags tokens
  checkBlocks nodes
  return nodes

/-- The template of a chain of levels, from the one that is rendered to its last layout. -/
def ofLevels (tags : Dict TagKind) (chain : List (List Token)) : Except Error Template := do
  let levels ← chain.mapM (readLevel tags)
  let (arena, roots) := storeLevels levels {}
  let root := roots.getLast?.getD ⟨0⟩
  if roots.length ≤ 1 then ofArena arena root
  else match Merging.mergeAll arena roots with
    | some m => ofArena m.arena root
    | none => throw .tooDeep

/-- The template of some tokens, and the names of the layouts that were asked for.  The chain of
layouts must not lead back to the name of the template, if it has one. -/
def resolve (setup : Setup) (name : Option String) (tokens : List Token) :
    Except Error Template × List String :=
  let seen := (name.map setup.options.resolveName).toList
  let (chain, asked) := levels setup seen tokens
  (chain.bind (ofLevels setup.tags), asked)

/-- The template of a source, and the names of the layouts that were asked for. -/
def parse (setup : Setup) (name : Option String) (source : String) :
    Except Error Template × List String :=
  match tokenize setup.options source with
  | .error e => (.error e, [])
  | .ok tokens => resolve setup name tokens

end Template

end Stencil
