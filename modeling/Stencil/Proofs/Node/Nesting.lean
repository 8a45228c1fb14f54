import Stencil.Layout.Blocks
import Mathlib.Data.List.Nodup
import Mathlib.Logic.Relation

/-!
# Blocks within blocks

What the nodes of a template hold (`Holds`), and what its tree says about its blocks: their names in
source order, which block stands inside which, the bodies of a block, and how deep and how many the
bodies are.  A level defines none
of its blocks twice exactly when their names differ (`checkBlocks_eq_ok_iff`), and a tree is never
deeper than its bodies are many (`heightAll_le_bodyCountAll`).
-/

set_option autoImplicit false

namespace Stencil.Node

/-- Some nodes, and what stands in the bodies below them. -/
inductive Holds (nodes : List Node) : Node → Prop
  | here {n : Node} (h : n ∈ nodes) : Holds nodes n
  | inside {n outer : Node} {body : List Node} (houter : Holds nodes outer)
      (hbody : body ∈ outer.bodies) (h : n ∈ body) : Holds nodes n

section Holds

variable {n m : Node} {nodes others : List Node}

/-- A node in two lists of nodes is in one of them. -/
theorem holds_append (h : Holds (nodes ++ others) n) : Holds nodes n ∨ Holds others n := by
  induction h with
  | here h => exact (List.mem_append.1 h).imp .here .here
  | inside _ hbody h ih => exact ih.imp (.inside · hbody h) (.inside · hbody h)

/-- What is in one node is the node or in one of its bodies. -/
theorem holds_singleton (h : Holds [m] n) : n = m ∨ ∃ body ∈ m.bodies, Holds body n := by
  induction h with
  | here h => exact .inl (List.mem_singleton.1 h)
  | inside _ hbody h ih =>
    rcases ih with rfl | ⟨body, hmem, hin⟩
    · exact .inr ⟨_, hbody, .here h⟩
    · exact .inr ⟨body, hmem, .inside hin hbody h⟩

/-- No node is in no nodes. -/
theorem not_holds_nil : ¬ Holds [] n := by
  intro h
  induction h with
  | here h => cases h
  | inside _ _ _ ih => exact ih

end Holds

mutual

/-- The names of the blocks of a node, its own name first. -/
def names : Node → List String
  | tag head bodies _ => head.block?.toList ++ namesInBodies bodies
  | _ => []

/-- The names of the blocks of some nodes in source order. -/
def namesAll : List Node → List String
  | [] => []
  | n :: rest => names n ++ namesAll rest

/-- The names of the blocks of some bodies in source order. -/
def namesInBodies : List (List Node) → List String
  | [] => []
  | body :: rest => namesAll body ++ namesInBodies rest

end

mutual

/-- The pairs of names of a block and of a block inside it, at any depth, within a node. -/
def nestings : Node → List (String × String)
  | tag head bodies _ =>
    (head.block?.toList.flatMap fun x => (namesInBodies bodies).map fun y => (x, y)) ++
      nestingsInBodies bodies
  | _ => []

/-- The pairs of a block and a block inside it within some nodes. -/
def nestingsAll : List Node → List (String × String)
  | [] => []
  | n :: rest => nestings n ++ nestingsAll rest

/-- The pairs of a block and a block inside it within some bodies. -/
def nestingsInBodies : List (List Node) → List (String × String)
  | [] => []
  | body :: rest => nestingsAll body ++ nestingsInBodies rest

end

/-- Whether a block of one name stands inside a block of another name in one of some levels. -/
def Nests (levels : List (List Node)) (outer inner : String) : Prop :=
  (outer, inner) ∈ levels.flatMap nestingsAll

/-- No name leads back to itself through blocks inside blocks, whichever levels they belong to. -/
def AcyclicNesting (levels : List (List Node)) : Prop :=
  ∀ x, ¬ Relation.TransGen (Nests levels) x x

/-- Where no block inside another one holds a further one, no name leads back to itself. -/
theorem acyclicNesting_of_no_path {levels : List (List Node)}
    (h : ∀ p ∈ levels.flatMap nestingsAll, ∀ q ∈ levels.flatMap nestingsAll, p.2 ≠ q.1) :
    AcyclicNesting levels := by
  have hstop {x y z : String} (hxy : Nests levels x y) (hyz : Nests levels y z) : False :=
    h _ hxy _ hyz rfl
  intro x hx
  obtain ⟨y, hxy, hyx⟩ := Relation.TransGen.head'_iff.1 hx
  rcases Relation.ReflTransGen.cases_head hyx with rfl | ⟨z, hyz, -⟩
  · exact hstop hxy hxy
  · exact hstop hxy hyz

mutual

/-- How many bodies deep a node is. -/
def height : Node → Nat
  | tag _ bodies _ => heightInBodies bodies
  | _ => 0

/-- How many bodies deep some nodes are. -/
def heightAll : List Node → Nat
  | [] => 0
  | n :: rest => max (height n) (heightAll rest)

/-- How deep some bodies are, each counted with what is in it. -/
def heightInBodies : List (List Node) → Nat
  | [] => 0
  | body :: rest => max (heightAll body + 1) (heightInBodies rest)

end

mutual

/-- The number of bodies of a node. -/
def bodyCount : Node → Nat
  | tag _ bodies _ => bodyCountInBodies bodies
  | _ => 0

/-- The number of bodies of some nodes. -/
def bodyCountAll : List Node → Nat
  | [] => 0
  | n :: rest => bodyCount n + bodyCountAll rest

/-- The number of some bodies and of all bodies inside them. -/
def bodyCountInBodies : List (List Node) → Nat
  | [] => 0
  | body :: rest => bodyCountAll body + 1 + bodyCountInBodies rest

end

mutual

/-- How many bodies deep a node is, apart from what is inside its blocks. -/
def outerHeight : Node → Nat
  | tag head bodies _ => if head.block?.isSome then 1 else outerHeightInBodies bodies
  | _ => 0

/-- How deep some nodes are, apart from what is inside their blocks. -/
def outerHeightAll : List Node → Nat
  | [] => 0
  | n :: rest => max (outerHeight n) (outerHeightAll rest)

/-- How deep some bodies are, apart from what is inside their blocks. -/
def outerHeightInBodies : List (List Node) → Nat
  | [] => 0
  | body :: rest => max (outerHeightAll body + 1) (outerHeightInBodies rest)

end

mutual

/-- How deep the contents of the blocks of a node are. -/
def innerHeight : Node → Nat
  | tag head bodies _ =>
    if head.block?.isSome then heightInBodies bodies - 1 else innerHeightInBodies bodies
  | _ => 0

/-- How deep the contents of the blocks of some nodes are. -/
def innerHeightAll : List Node → Nat
  | [] => 0
  | n :: rest => max (innerHeight n) (innerHeightAll rest)

/-- How deep the contents of the blocks of some bodies are. -/
def innerHeightInBodies : List (List Node) → Nat
  | [] => 0
  | body :: rest => max (innerHeightAll body) (innerHeightInBodies rest)

end

mutual

/-- The bodies of the blocks of a name within a node. -/
def blockBodies (x : String) : Node → List (List Node)
  | tag head bodies _ =>
    (if head.block? = some x then bodies.head?.toList else []) ++ blockBodiesInBodies x bodies
  | _ => []

/-- The bodies of the blocks of a name within some nodes. -/
def blockBodiesAll (x : String) : List Node → List (List Node)
  | [] => []
  | n :: rest => blockBodies x n ++ blockBodiesAll x rest

/-- The bodies of the blocks of a name within some bodies. -/
def blockBodiesInBodies (x : String) : List (List Node) → List (List Node)
  | [] => []
  | body :: rest => blockBodiesAll x body ++ blockBodiesInBodies x rest

end

/-- Whether a node is the mark that stands for the content of an overridden block. -/
def isBlockSuper : Node → Bool
  | output o _ => o.isBlockSuper
  | _ => false

mutual

/-- A node is no higher than it has bodies. -/
theorem height_le_bodyCount (n : Node) : height n ≤ bodyCount n := by
  cases n with
  | literal => simp [height]
  | output => simp [height]
  | tag head bodies t =>
    simp only [height, bodyCount]
    exact heightInBodies_le_bodyCount bodies

/-- Nodes are no higher than they have bodies. -/
theorem heightAll_le_bodyCountAll (nodes : List Node) : heightAll nodes ≤ bodyCountAll nodes := by
  cases nodes with
  | nil => simp [heightAll]
  | cons n rest =>
    have hn := height_le_bodyCount n
    have hrest := heightAll_le_bodyCountAll rest
    simp only [heightAll, bodyCountAll]
    omega

/-- Bodies are no higher than they are and have bodies. -/
theorem heightInBodies_le_bodyCount (bodies : List (List Node)) :
    heightInBodies bodies ≤ bodyCountInBodies bodies := by
  cases bodies with
  | nil => simp [heightInBodies]
  | cons body rest =>
    have hbody := heightAll_le_bodyCountAll body
    have hrest := heightInBodies_le_bodyCount rest
    simp only [heightInBodies, bodyCountInBodies]
    omega

end

mutual

/-- A node without blocks has no bodies of blocks. -/
theorem blockBodies_of_no_names {n : Node} (h : names n = []) (x : String) :
    blockBodies x n = [] := by
  cases n with
  | literal t => rfl
  | output o t => rfl
  | tag head bodies t =>
    simp only [names, List.append_eq_nil_iff, Option.toList_eq_nil_iff] at h
    have hinner := blockBodiesInBodies_of_no_names h.2 x
    simp [blockBodies, h.1, hinner]

/-- Nodes without blocks have no bodies of blocks. -/
theorem blockBodiesAll_of_no_names {nodes : List Node} (h : namesAll nodes = []) (x : String) :
    blockBodiesAll x nodes = [] := by
  cases nodes with
  | nil => rfl
  | cons n rest =>
    simp only [namesAll, List.append_eq_nil_iff] at h
    simp only [blockBodiesAll, blockBodies_of_no_names h.1, blockBodiesAll_of_no_names h.2,
      List.append_nil]

/-- Bodies without blocks have no bodies of blocks. -/
theorem blockBodiesInBodies_of_no_names {bodies : List (List Node)} (h : namesInBodies bodies = [])
    (x : String) : blockBodiesInBodies x bodies = [] := by
  cases bodies with
  | nil => rfl
  | cons body rest =>
    simp only [namesInBodies, List.append_eq_nil_iff] at h
    simp only [blockBodiesInBodies, blockBodiesAll_of_no_names h.1,
      blockBodiesInBodies_of_no_names h.2, List.append_nil]

end

/-- Bodies are counted in two parts. -/
theorem bodyCountInBodies_append (l₁ l₂ : List (List Node)) :
    bodyCountInBodies (l₁ ++ l₂) = bodyCountInBodies l₁ + bodyCountInBodies l₂ := by
  induction l₁ with
  | nil => simp [bodyCountInBodies]
  | cons body rest ih =>
    simp only [List.cons_append, bodyCountInBodies, ih]
    omega

/-- Two lists of nodes are as high as the higher one. -/
theorem heightAll_append (l₁ l₂ : List Node) :
    heightAll (l₁ ++ l₂) = max (heightAll l₁) (heightAll l₂) := by
  induction l₁ with
  | nil => simp [heightAll]
  | cons n rest ih =>
    simp only [List.cons_append, heightAll, ih]
    omega

/-- The names in two lists of nodes are those in the first, then those in the second. -/
theorem namesAll_append (l₁ l₂ : List Node) : namesAll (l₁ ++ l₂) = namesAll l₁ ++ namesAll l₂ := by
  induction l₁ with
  | nil => simp [namesAll]
  | cons n rest ih => simp only [List.cons_append, namesAll, ih, List.append_assoc]

/-- The names in nodes are those in each node, in order. -/
theorem namesAll_eq_flatMap (nodes : List Node) : namesAll nodes = nodes.flatMap names := by
  induction nodes with
  | nil => rfl
  | cons n rest ih => rw [namesAll, ih, List.flatMap_cons]

/-- The names in bodies are those in each body, in order. -/
theorem namesInBodies_eq_flatMap (bodies : List (List Node)) :
    namesInBodies bodies = bodies.flatMap namesAll := by
  induction bodies with
  | nil => rfl
  | cons body rest ih => rw [namesInBodies, ih, List.flatMap_cons]

/-- The nestings in nodes are those in each node, in order. -/
theorem nestingsAll_eq_flatMap (nodes : List Node) :
    nestingsAll nodes = nodes.flatMap nestings := by
  induction nodes with
  | nil => rfl
  | cons n rest ih => rw [nestingsAll, ih, List.flatMap_cons]

/-- The nestings in bodies are those in each body, in order. -/
theorem nestingsInBodies_eq_flatMap (bodies : List (List Node)) :
    nestingsInBodies bodies = bodies.flatMap nestingsAll := by
  induction bodies with
  | nil => rfl
  | cons body rest ih => rw [nestingsInBodies, ih, List.flatMap_cons]

/-- The first node of some nodes stands directly among them, and its own blocks follow. -/
theorem blocks_cons_perm (n : Node) (rest : List Node) :
    (blocks (n :: rest)).Perm
      ((n.block?.toList.map fun x => (x, n.token)) ++ blocksInside n ++ blocks rest) := by
  have hdirect : directBlocks (n :: rest) =
      (n.block?.toList.map fun x => (x, n.token)) ++ directBlocks rest := by
    cases h : n.block? <;> simp [directBlocks, h]
  simp only [blocks, hdirect, blocksInsideAll, List.append_assoc]
  refine List.Perm.append_left _ ?_
  rw [← List.append_assoc]
  exact List.perm_append_comm

mutual

/-- The blocks inside a node are listed under the names of the node, behind its own name. -/
theorem names_perm (n : Node) :
    (names n).Perm (n.block?.toList ++ (blocksInside n).map Prod.fst) := by
  cases n with
  | literal t => simp [names, blocksInside, block?, head?]
  | output o t => simp [names, blocksInside, block?, head?]
  | tag head bodies t =>
    simp only [names, blocksInside, block?, head?, Option.bind_some]
    exact List.Perm.append_left _ (namesInBodies_perm bodies)

/-- The names in nodes are those of their blocks, in another order. -/
theorem namesAll_perm (nodes : List Node) :
    (namesAll nodes).Perm ((blocks nodes).map Prod.fst) := by
  cases nodes with
  | nil => simp [namesAll, blocks, directBlocks, blocksInsideAll]
  | cons n rest =>
    have hn := names_perm n
    have hrest := namesAll_perm rest
    have hcons := (blocks_cons_perm n rest).map Prod.fst
    simp only [List.map_append, List.map_map, Function.comp_def, List.map_id'] at hcons
    exact (hn.append hrest).trans hcons.symm

/-- The names in bodies are those of their blocks, in another order. -/
theorem namesInBodies_perm (bodies : List (List Node)) :
    (namesInBodies bodies).Perm ((blocksInBodies bodies).map Prod.fst) := by
  cases bodies with
  | nil => simp [namesInBodies, blocksInBodies]
  | cons body rest =>
    have hbody := namesAll_perm body
    have hrest := namesInBodies_perm rest
    simp only [blocks] at hbody
    simp only [namesInBodies, blocksInBodies, List.map_append]
    rw [List.map_append] at hbody
    exact (hbody.append hrest).trans List.perm_append_comm

end

end Stencil.Node

namespace Stencil

/-- Nothing is repeated exactly where names differ from each other and from those seen before. -/
theorem firstRepeated_eq_none_iff {seen : List String} {named : List (String × Token)} :
    firstRepeated seen named = none ↔
      (named.map Prod.fst).Nodup ∧ ∀ x ∈ named.map Prod.fst, x ∉ seen := by
  induction named generalizing seen with
  | nil => simp [firstRepeated]
  | cons e rest ih =>
    obtain ⟨x, t⟩ := e
    rw [firstRepeated, List.map_cons, List.nodup_cons, List.forall_mem_cons]
    split
    · next hx =>
      simp only [List.contains_eq_mem, decide_eq_true_eq] at hx
      simp [hx]
    · next hx =>
      simp only [List.contains_eq_mem, decide_eq_true_eq] at hx
      rw [ih]
      constructor
      · rintro ⟨hnodup, hfresh⟩
        refine ⟨⟨fun hmem => hfresh x hmem (List.mem_cons_self ..), hnodup⟩, hx, ?_⟩
        exact fun y hy hseen => hfresh y hy (List.mem_cons_of_mem _ hseen)
      · rintro ⟨⟨hnot, hnodup⟩, -, hfresh⟩
        refine ⟨hnodup, fun y hy hseen => ?_⟩
        rcases List.mem_cons.1 hseen with rfl | hseen
        · exact hnot hy
        · exact hfresh y hy hseen

/-- A level defines none of its blocks twice exactly when their names differ from each other. -/
theorem checkBlocks_eq_ok_iff {nodes : List Node} :
    checkBlocks nodes = .ok () ↔ (Node.namesAll nodes).Nodup := by
  have hnone : checkBlocks nodes = .ok () ↔ firstRepeated [] (Node.blocks nodes) = none := by
    unfold checkBlocks
    split <;> simp [*]
  rw [hnone, firstRepeated_eq_none_iff, (Node.namesAll_perm nodes).nodup_iff]
  simp

end Stencil
