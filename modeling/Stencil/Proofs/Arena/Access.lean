import Stencil.Render
import Stencil.Proofs.Arena.WellFormed

/-!
# Access through handles

Nodes and bodies are looked up by handle, and a handle out of range is a fault (`Arena.Fault`).
What is made of the nodes below a body, body by body, is a fold over their trees (`Fold.ofNodes`), and
so are the outline and the rendering of a template.  Such a fold can follow the handles of an arena
instead (`Fold.follow`).  If the handles are in range, it meets no fault but that of a depth that is
exceeded, and gives what the fold gives over the trees that are unfolded (`Fold.follow_eq`).
-/

set_option autoImplicit false

namespace Stencil

namespace Arena

/-- What ends a use of handles. -/
inductive Fault where
  | outOfRange
  | tooDeep

/-- A result that lies within some depth. -/
def inDepth {α : Type} : Option α → Except Fault α
  | some x => .ok x
  | none => .error .tooDeep

/-- Looks up a node. -/
def cellAt (a : Arena) (id : NodeId) : Except Fault Cell :=
  match a.cells[id.index]? with
  | some c => .ok c
  | none => .error .outOfRange

/-- Looks up the nodes of a body. -/
def bodyAt (a : Arena) (b : BodyId) : Except Fault (List NodeId) :=
  match a.bodies[b.index]? with
  | some nodes => .ok nodes
  | none => .error .outOfRange

/-- Replaces the nodes of a body. -/
def setBodyAt (a : Arena) (b : BodyId) (nodes : List NodeId) : Except Fault Arena :=
  if b.index < a.bodies.size then .ok (a.setBody b nodes) else .error .outOfRange

section Access

variable {a : Arena} {id : NodeId} {b : BodyId}

/-- The checked lookup of a node that is stored does not fault. -/
theorem cellAt_of_cell? {c : Cell} (h : a.cell? id = some c) : a.cellAt id = .ok c := by
  simp only [cell?] at h
  simp only [cellAt, h]

/-- The checked lookup of a body in range does not fault. -/
theorem bodyAt_of_lt (h : b.index < a.bodies.size) : a.bodyAt b = .ok (a.body b) := by
  simp only [bodyAt, body, Array.getElem?_eq_getElem h, Option.getD_some]

/-- The checked update of a body in range does not fault. -/
theorem setBodyAt_of_lt (h : b.index < a.bodies.size) (nodes : List NodeId) :
    a.setBodyAt b nodes = .ok (a.setBody b nodes) := by
  simp only [setBodyAt, if_pos h]

/-- A bound on the depth fails before or behind a pure step alike. -/
theorem inDepth_bind_pure {α β : Type} (r : Option α) (f : α → β) :
    (inDepth r >>= fun x => pure (f x)) = inDepth (r.map f) := by
  cases r <;> rfl

/-- Some lookups fail together just when one of them does. -/
theorem mapM_inDepth {α β γ : Type} {f : α → Option β} {g : α → Except Fault γ} {h : β → γ}
    {l : List α} (hg : ∀ x ∈ l, g x = inDepth ((f x).map h)) :
    l.mapM g = inDepth ((l.mapM f).map (List.map h)) := by
  induction l with
  | nil => rfl
  | cons x l ih =>
    have hx := hg x (List.mem_cons_self ..)
    have hl := ih fun y hy => hg y (List.mem_cons_of_mem _ hy)
    rw [List.mapM_cons, List.mapM_cons, hx, hl]
    cases f x with
    | none => rfl
    | some y => cases l.mapM f <;> rfl

end Access

end Arena

/-- What is made of nodes and of the bodies of tags. -/
structure Fold (α β : Type) where
  literal : Token → α
  output : Output → Token → α
  tag : Head → List β → Token → α
  body : List α → β

namespace Fold

open Arena

variable {α β : Type}

mutual

/-- What is made of a node. -/
def ofNode (f : Fold α β) : Node → α
  | .literal t => f.literal t
  | .output o t => f.output o t
  | .tag head bodies t => f.tag head (f.ofBodies bodies) t

/-- What is made of each of some nodes. -/
def ofEach (f : Fold α β) : List Node → List α
  | [] => []
  | n :: rest => f.ofNode n :: f.ofEach rest

/-- What is made of each of some bodies. -/
def ofBodies (f : Fold α β) : List (List Node) → List β
  | [] => []
  | body :: rest => f.body (f.ofEach body) :: f.ofBodies rest

end

/-- What is made of a body. -/
def ofNodes (f : Fold α β) (nodes : List Node) : β :=
  f.body (f.ofEach nodes)

/-- What is made of a stored node, given what is made of the bodies behind its handles. -/
def ofCell (f : Fold α β) (inner : BodyId → Except Fault β) : Cell → Except Fault α
  | .literal t => return f.literal t
  | .output o t => return f.output o t
  | .tag head bodies t => return f.tag head (← bodies.mapM inner) t

/-- What is made of the node behind a handle. -/
def ofHandle (f : Fold α β) (a : Arena) (inner : BodyId → Except Fault β) (id : NodeId) :
    Except Fault α := do
  f.ofCell inner (← a.cellAt id)

/-- What is made of the body behind a handle, no more than `n` bodies deep.  All handles below it are
looked up, also those of bodies that a rendering would skip. -/
def follow (f : Fold α β) (a : Arena) : Nat → BodyId → Except Fault β
  | 0, _ => .error .tooDeep
  | n + 1, b => do
    return f.body (← (← a.bodyAt b).mapM (f.ofHandle a (f.follow a n)))

/-- A fold goes over nodes one by one. -/
theorem ofEach_eq_map (f : Fold α β) (nodes : List Node) : f.ofEach nodes = nodes.map f.ofNode := by
  induction nodes with
  | nil => rfl
  | cons n rest ih => rw [ofEach, ih, List.map_cons]

/-- A fold goes over bodies one by one. -/
theorem ofBodies_eq_map (f : Fold α β) (bodies : List (List Node)) :
    f.ofBodies bodies = bodies.map f.ofNodes := by
  induction bodies with
  | nil => rfl
  | cons body rest ih => rw [ofBodies, ih, List.map_cons, ofNodes]

/-- What is made of a stored node whose bodies are followed as they are unfolded. -/
theorem ofCell_eq (f : Fold α β) {a : Arena} {n : Nat} {inner : BodyId → Except Fault β}
    {id : NodeId} {c : Cell} (hc : a.cell? id = some c)
    (hinner : ∀ b ∈ c.bodies, inner b = inDepth ((a.unfold n b).map f.ofNodes)) :
    f.ofCell inner c = inDepth ((a.readNode n id).map f.ofNode) := by
  rw [readNode, hc]
  cases c with
  | literal t => rfl
  | output o t => rfl
  | tag head bodies t =>
    have hbodies := mapM_inDepth hinner
    show (bodies.mapM inner >>= fun parts => pure (f.tag head parts t)) =
      inDepth (((bodies.mapM (a.unfold n)).map fun bodies => .tag head bodies t).map f.ofNode)
    simp only [Cell.bodies] at hbodies
    rw [hbodies, inDepth_bind_pure, Option.map_map, Option.map_map]
    congr 2
    funext trees
    simp only [Function.comp, ofNode, ofBodies_eq_map]

/-- Following handles that are in range gives what is made of the trees behind them. -/
theorem follow_eq (f : Fold α β) {a : Arena} (ha : a.InRange) (n : Nat) {b : BodyId}
    (hb : b.index < a.bodies.size) : f.follow a n b = inDepth ((a.unfold n b).map f.ofNodes) := by
  induction n generalizing b with
  | zero => rfl
  | succ n ih =>
    have hparts : ∀ id ∈ a.body b, f.ofHandle a (f.follow a n) id =
        inDepth ((a.readNode n id).map f.ofNode) := by
      intro id hid
      obtain ⟨c, hc⟩ := ha.exists_cell? hid
      rw [ofHandle, cellAt_of_cell? hc]
      refine f.ofCell_eq hc fun inner hinner => ih ?_
      rw [← children_of_cell? hc] at hinner
      exact ha.body_lt hinner
    rw [follow, bodyAt_of_lt hb, unfold_succ]
    show ((a.body b).mapM (f.ofHandle a (f.follow a n)) >>= fun parts => pure (f.body parts)) = _
    rw [mapM_inDepth hparts, inDepth_bind_pure, Option.map_map]
    congr 2
    funext trees
    simp only [Function.comp, ofNodes, ofEach_eq_map]

/-- The lines of an outline, by the depth that they stand at. -/
def outline : Fold (Nat → String) (Nat → String) where
  literal t depth := Node.margin depth ++ Text.quoted t.value ++ "\n"
  output o _ depth := Node.margin depth ++ "\x7b\x7b" ++ o.source ++ "\x7d\x7d\n"
  tag _ bodies t depth := Node.margin depth ++ "\x7b% " ++ t.value ++ " %\x7d\n" ++
    bodies.foldr (fun lines rest => lines (depth + 1) ++ rest) ""
  body nodes depth := nodes.foldr (fun lines rest => lines depth ++ rest) ""

mutual

/-- The outline of a node is a fold over it. -/
theorem ofNode_outline (depth : Nat) (n : Node) : outline.ofNode n depth = n.outline depth := by
  cases n with
  | literal t => rfl
  | output o t => rfl
  | tag head bodies t =>
    rw [Node.outline, ← foldr_ofBodies_outline (depth + 1) bodies]
    rfl

/-- The outline of some nodes is a fold over them. -/
theorem ofNodes_outline (depth : Nat) (nodes : List Node) :
    outline.ofNodes nodes depth = Node.outlineNodes depth nodes := by
  cases nodes with
  | nil => rfl
  | cons n rest =>
    rw [Node.outlineNodes, ← ofNode_outline depth n, ← ofNodes_outline depth rest]
    rfl

/-- The outlines of bodies are those of a fold, one after the other. -/
theorem foldr_ofBodies_outline (depth : Nat) (bodies : List (List Node)) :
    (outline.ofBodies bodies).foldr (fun lines rest => lines depth ++ rest) "" =
      Node.outlineBodies depth bodies := by
  cases bodies with
  | nil => rfl
  | cons body rest =>
    rw [Node.outlineBodies, ← ofNodes_outline depth body, ← foldr_ofBodies_outline depth rest]
    rfl

end

/-- How nodes are rendered. -/
def rendering (filters : Filters) (fetch : String → Render (Render String)) :
    Fold (Render String) (Render String) where
  literal t := return t.value
  output o t := Render.located t.position do
    return (← Render.eval fun scope => o.eval filters scope).text
  tag head bodies t := Render.located t.position (head.render filters fetch bodies)
  body nodes := nodes.foldr (fun text rest => do Render.after (← text) rest) (return "")

mutual

/-- Rendering a node is a fold over it. -/
theorem ofNode_rendering (filters : Filters) (fetch : String → Render (Render String)) (n : Node) :
    (rendering filters fetch).ofNode n = n.render filters fetch := by
  cases n with
  | literal t => rfl
  | output o t => rfl
  | tag head bodies t =>
    rw [Node.render, ← ofBodies_rendering filters fetch bodies]
    rfl

/-- Rendering nodes is a fold over them. -/
theorem ofNodes_rendering (filters : Filters) (fetch : String → Render (Render String))
    (nodes : List Node) :
    (rendering filters fetch).ofNodes nodes = Node.renderAll filters fetch nodes := by
  cases nodes with
  | nil => rfl
  | cons n rest =>
    rw [Node.renderAll, ← ofNode_rendering filters fetch n, ← ofNodes_rendering filters fetch rest]
    rfl

/-- Rendering bodies is a fold over them. -/
theorem ofBodies_rendering (filters : Filters) (fetch : String → Render (Render String))
    (bodies : List (List Node)) :
    (rendering filters fetch).ofBodies bodies = Node.renderBodies filters fetch bodies := by
  cases bodies with
  | nil => rfl
  | cons body rest =>
    rw [Node.renderBodies, ← ofNodes_rendering filters fetch body,
      ← ofBodies_rendering filters fetch rest]
    rfl

end

end Fold

end Stencil
