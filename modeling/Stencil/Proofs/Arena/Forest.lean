import Stencil.Template
import Stencil.Proofs.Node.Shape

/-!
# Stored trees form a forest

Storing trees keeps an arena a forest: every handle is in range, every node stands in at most one
body and at most once there, every body belongs to at most one node, and a block holds its body
alone.  `storeNodes_spec` says this together with the trees that can be read back at the handles
(`NodesAt`) and the blocks that these trees brought along (`blocksAtAll`); `storeLevels_spec` says
it of all levels of a chain of layouts, whose root bodies belong to no node.
-/

set_option autoImplicit false

namespace Stencil

namespace Arena

mutual

/-- The tree that is stored at a handle. -/
def NodeAt (a : Arena) (id : NodeId) : Node → Prop
  | .literal t => a.cell? id = some (.literal t)
  | .output o t => a.cell? id = some (.output o t)
  | .tag head bodies t => ∃ ids, a.cell? id = some (.tag head ids t) ∧ BodiesAt a ids bodies

/-- The trees that are stored at some handles. -/
def NodesAt (a : Arena) : List NodeId → List Node → Prop
  | ids, [] => ids = []
  | ids, n :: rest => ∃ id others, ids = id :: others ∧ NodeAt a id n ∧ NodesAt a others rest

/-- The trees that are stored as some bodies. -/
def BodiesAt (a : Arena) : List BodyId → List (List Node) → Prop
  | ids, [] => ids = []
  | ids, body :: rest =>
    ∃ id others, ids = id :: others ∧ NodesAt a (a.body id) body ∧ BodiesAt a others rest

end

mutual

/-- The blocks of a stored tree with their bodies, outer ones first. -/
def blocksAt (a : Arena) (id : NodeId) : Node → List (String × BodyId)
  | .tag _ bodies _ => (a.block? id).toList ++ blocksAtBodies a (a.children id) bodies
  | _ => []

/-- The blocks of some stored trees with their bodies in source order. -/
def blocksAtAll (a : Arena) : List NodeId → List Node → List (String × BodyId)
  | id :: ids, n :: rest => blocksAt a id n ++ blocksAtAll a ids rest
  | _, _ => []

/-- The blocks of some stored bodies with their bodies in source order. -/
def blocksAtBodies (a : Arena) : List BodyId → List (List Node) → List (String × BodyId)
  | id :: ids, body :: rest => blocksAtAll a (a.body id) body ++ blocksAtBodies a ids rest
  | _, _ => []

end

/-- A body is that of a block of the given name. -/
def Owns (a : Arena) (x : String) (b : BodyId) : Prop :=
  ∃ id, a.block? id = some (x, b)

/-- No nodes are stored at no handles only. -/
@[simp] theorem nodesAt_nil (a : Arena) (ids : List NodeId) : NodesAt a ids [] ↔ ids = [] := by
  simp [NodesAt]

/-- Nodes are stored one by one. -/
@[simp] theorem nodesAt_cons (a : Arena) (id : NodeId) (ids : List NodeId) (n : Node)
    (rest : List Node) :
    NodesAt a (id :: ids) (n :: rest) ↔ NodeAt a id n ∧ NodesAt a ids rest := by
  simp [NodesAt]

/-- At no handles, no node is stored. -/
@[simp] theorem not_nodesAt_nil_cons (a : Arena) (n : Node) (rest : List Node) :
    ¬ NodesAt a [] (n :: rest) := by
  simp [NodesAt]

/-- No bodies are stored at no handles only. -/
@[simp] theorem bodiesAt_nil (a : Arena) (ids : List BodyId) : BodiesAt a ids [] ↔ ids = [] := by
  simp [BodiesAt]

/-- Bodies are stored one by one. -/
@[simp] theorem bodiesAt_cons (a : Arena) (id : BodyId) (ids : List BodyId) (body : List Node)
    (rest : List (List Node)) :
    BodiesAt a (id :: ids) (body :: rest) ↔ NodesAt a (a.body id) body ∧ BodiesAt a ids rest := by
  simp [BodiesAt]

/-- At no handles, no body is stored. -/
@[simp] theorem not_bodiesAt_nil_cons (a : Arena) (body : List Node) (rest : List (List Node)) :
    ¬ BodiesAt a [] (body :: rest) := by
  simp [BodiesAt]

/-- A node that was allocated and that stands in no body yet. -/
def FreeNode (a : Arena) (id : NodeId) : Prop :=
  id.index < a.cells.size ∧ ∀ b, id ∉ a.body b

/-- A body that was allocated and that belongs to no node. -/
def FreeBody (a : Arena) (b : BodyId) : Prop :=
  b.index < a.bodies.size ∧ ∀ id, b ∉ a.children id

/-- The handles in an arena are in range. -/
structure InRange (a : Arena) : Prop where
  node_lt : ∀ {b id}, id ∈ a.body b → id.index < a.cells.size
  body_lt : ∀ {id b}, b ∈ a.children id → b.index < a.bodies.size

/-- The handles in an arena are in range, every node stands in at most one body and once there, and
every body belongs to at most one node. -/
structure Unshared (a : Arena) : Prop extends InRange a where
  nodup : ∀ b, (a.body b).Nodup
  body_unique : ∀ {id b b'}, id ∈ a.body b → id ∈ a.body b' → b = b'
  owner_unique : ∀ {b id id'}, b ∈ a.children id → b ∈ a.children id' → id = id'

/-- An arena whose handles lead from each node and body to further ones without sharing. -/
structure Forest (a : Arena) : Prop extends Unshared a where
  /-- A block holds its body and no other. -/
  single : ∀ {id x b}, a.block? id = some (x, b) → a.children id = [b]

/-- The second arena holds the first one unchanged, and perhaps more. -/
structure Grows (a a' : Arena) : Prop where
  cells_le : a.cells.size ≤ a'.cells.size
  bodies_le : a.bodies.size ≤ a'.bodies.size
  cell? : ∀ {id : NodeId}, id.index < a.cells.size → a'.cell? id = a.cell? id
  body : ∀ {b : BodyId}, b.index < a.bodies.size → a'.body b = a.body b

/-- The second arena is a forest that holds the first one, and what was free there is still free. -/
structure Stores (a a' : Arena) : Prop extends Grows a a' where
  forest : Forest a'
  freeNode : ∀ {id}, FreeNode a id → FreeNode a' id
  freeBody : ∀ {b}, FreeBody a b → FreeBody a' b

/-- An arena that grew twice has grown. -/
theorem Grows.trans {a b c : Arena} (h₁ : Grows a b) (h₂ : Grows b c) : Grows a c where
  cells_le := Nat.le_trans h₁.cells_le h₂.cells_le
  bodies_le := Nat.le_trans h₁.bodies_le h₂.bodies_le
  cell? h := (h₂.cell? (Nat.lt_of_lt_of_le h h₁.cells_le)).trans (h₁.cell? h)
  body h := (h₂.body (Nat.lt_of_lt_of_le h h₁.bodies_le)).trans (h₁.body h)

/-- Nothing is stored in a forest as it is. -/
theorem Stores.refl {a : Arena} (h : Forest a) : Stores a a :=
  ⟨⟨Nat.le_refl _, Nat.le_refl _, fun _ => rfl, fun _ => rfl⟩, h, id, id⟩

/-- What is stored in two steps is stored in one. -/
theorem Stores.trans {a b c : Arena} (h₁ : Stores a b) (h₂ : Stores b c) : Stores a c :=
  ⟨h₁.toGrows.trans h₂.toGrows, h₂.forest, fun h => h₂.freeNode (h₁.freeNode h),
    fun h => h₂.freeBody (h₁.freeBody h)⟩

/-- An empty arena is a forest. -/
theorem forest_empty : Forest {} where
  node_lt h := by simp [body] at h
  body_lt h := by simp [children, cell?] at h
  nodup b := by simp [body]
  body_unique h := by simp [body] at h
  owner_unique h := by simp [children, cell?] at h
  single h := by simp [block?, cell?] at h

/-- The handle of a stored node is in range. -/
theorem lt_of_cell? {a : Arena} {id : NodeId} {c : Cell} (h : a.cell? id = some c) :
    id.index < a.cells.size := by
  by_contra hge
  simp [cell?, Array.getElem?_eq_none (Nat.le_of_not_lt hge)] at h

/-- The bodies of a stored node are those of its cell. -/
theorem children_of_cell? {a : Arena} {id : NodeId} {c : Cell} (h : a.cell? id = some c) :
    a.children id = c.bodies := by
  simp [children, h]

/-- The bodies that a cell of a forest holds are in range. -/
theorem Forest.lt_of_mem_bodies {a : Arena} (h : Forest a) {id : NodeId} {c : Cell}
    (hc : a.cell? id = some c) {b : BodyId} (hb : b ∈ c.bodies) : b.index < a.bodies.size := by
  rw [← children_of_cell? hc] at hb
  exact h.body_lt hb

/-- A stored node is a block just if its cell is. -/
theorem block?_of_cell? {a : Arena} {id : NodeId} {c : Cell} (h : a.cell? id = some c) :
    a.block? id = c.block? := by
  simp [block?, h]

/-- The body of a block is one of its bodies. -/
theorem Forest.mem_children {a : Arena} (h : Forest a) {id : NodeId} {x : String} {b : BodyId}
    (hb : a.block? id = some (x, b)) : b ∈ a.children id := by
  rw [h.single hb]
  exact List.mem_singleton_self b

/-- Allocating a cell adds that one and changes no other. -/
theorem cell?_alloc (a : Arena) (c : Cell) (id : NodeId) :
    (a.alloc c).1.cell? id = if id.index = a.cells.size then some c else a.cell? id := by
  simp only [cell?, alloc, Array.getElem?_push]

/-- A cell that is allocated is at the handle that is given out. -/
theorem cell?_alloc_self (a : Arena) (c : Cell) : (a.alloc c).1.cell? (a.alloc c).2 = some c := by
  rw [cell?_alloc, if_pos (show (a.alloc c).2.index = a.cells.size from rfl)]

/-- Allocating a body adds that one and changes no other. -/
theorem body_allocBody (a : Arena) (nodes : List NodeId) (b : BodyId) :
    (a.allocBody nodes).1.body b = if b.index = a.bodies.size then nodes else a.body b := by
  simp only [body, allocBody, Array.getElem?_push]
  split <;> simp

/-- Allocating a cell gives its node the bodies of the cell, and other nodes keep theirs. -/
theorem children_alloc (a : Arena) (c : Cell) (id : NodeId) :
    (a.alloc c).1.children id = if id.index = a.cells.size then c.bodies else a.children id := by
  simp only [children, cell?_alloc]
  split <;> simp

/-- Allocating a cell makes its node a block just if the cell is one. -/
theorem block?_alloc (a : Arena) (c : Cell) (id : NodeId) :
    (a.alloc c).1.block? id = if id.index = a.cells.size then c.block? else a.block? id := by
  simp only [block?, cell?_alloc]
  split <;> simp

/-- A cell whose bodies are free shares none of them with another one. -/
theorem Unshared.alloc {a : Arena} (h : Unshared a) {c : Cell}
    (hfree : ∀ b ∈ c.bodies, FreeBody a b) : Unshared (a.alloc c).1 where
  node_lt hid := by
    have hlt := h.node_lt hid
    simp only [Arena.alloc, Array.size_push]
    omega
  body_lt {id b} hb := by
    rw [children_alloc] at hb
    split at hb
    · exact (hfree b hb).1
    · exact h.body_lt hb
  nodup := h.nodup
  body_unique := h.body_unique
  owner_unique {b id id'} hb hb' := by
    rw [children_alloc] at hb hb'
    split at hb <;> split at hb'
    · next e e' => cases id; cases id'; simp only [NodeId.mk.injEq]; exact e.trans e'.symm
    · exact absurd hb' ((hfree b hb).2 id')
    · exact absurd hb ((hfree b hb').2 id)
    · exact h.owner_unique hb hb'

/-- A body of different free nodes shares none of them with another one. -/
theorem Unshared.allocBody {a : Arena} (h : Unshared a) {nodes : List NodeId}
    (hfree : ∀ id ∈ nodes, FreeNode a id) (hnodup : nodes.Nodup) :
    Unshared (a.allocBody nodes).1 where
  node_lt {b id} hid := by
    rw [body_allocBody] at hid
    split at hid
    · exact (hfree id hid).1
    · exact h.node_lt hid
  body_lt {id b} hb := by
    have hlt := h.body_lt hb
    simp only [Arena.allocBody, Array.size_push]
    omega
  nodup b := by
    rw [body_allocBody]
    split
    · exact hnodup
    · exact h.nodup b
  body_unique {id b b'} hid hid' := by
    rw [body_allocBody] at hid hid'
    split at hid <;> split at hid'
    · next e e' => cases b; cases b'; simp only [BodyId.mk.injEq]; exact e.trans e'.symm
    · exact absurd hid' ((hfree id hid).2 b')
    · exact absurd hid ((hfree id hid').2 b)
    · exact h.body_unique hid hid'
  owner_unique := h.owner_unique

/-- Allocating a cell whose bodies are free, and which as a block holds a single one, keeps an arena
a forest. -/
theorem Forest.alloc {a : Arena} (h : Forest a) {c : Cell} (hfree : ∀ b ∈ c.bodies, FreeBody a b)
    (hsingle : ∀ x b, c.block? = some (x, b) → c.bodies = [b]) : Forest (a.alloc c).1 where
  toUnshared := h.toUnshared.alloc hfree
  single {id x b} hb := by
    rw [block?_alloc] at hb
    rw [children_alloc]
    split at hb
    · next e => rw [if_pos e]; exact hsingle x b hb
    · next e => rw [if_neg e]; exact h.single hb

/-- Allocating a body of different free nodes keeps an arena a forest. -/
theorem Forest.allocBody {a : Arena} (h : Forest a) {nodes : List NodeId}
    (hfree : ∀ id ∈ nodes, FreeNode a id) (hnodup : nodes.Nodup) :
    Forest (a.allocBody nodes).1 where
  toUnshared := h.toUnshared.allocBody hfree hnodup
  single := h.single

/-- A node that is stored stands in no body yet. -/
theorem freeNode_alloc {a : Arena} (h : InRange a) (c : Cell) :
    FreeNode (a.alloc c).1 (a.alloc c).2 := by
  refine ⟨by simp [Arena.alloc], fun b hb => ?_⟩
  have hlt := h.node_lt hb
  simp [Arena.alloc] at hlt

/-- A free node is free when a further node is stored. -/
theorem FreeNode.alloc {a : Arena} {id : NodeId} (h : FreeNode a id) (c : Cell) :
    FreeNode (a.alloc c).1 id :=
  ⟨by simp only [Arena.alloc, Array.size_push]; have := h.1; omega, h.2⟩

/-- A free body is free when a node without it is stored. -/
theorem FreeBody.alloc {a : Arena} {b : BodyId} (h : FreeBody a b) {c : Cell} (hc : b ∉ c.bodies) :
    FreeBody (a.alloc c).1 b := by
  refine ⟨h.1, fun id hid => ?_⟩
  rw [children_alloc] at hid
  split at hid
  · exact hc hid
  · exact h.2 id hid

/-- A body that is stored belongs to no node yet. -/
theorem freeBody_allocBody {a : Arena} (h : InRange a) (nodes : List NodeId) :
    FreeBody (a.allocBody nodes).1 (a.allocBody nodes).2 := by
  refine ⟨by simp [Arena.allocBody], fun id hid => ?_⟩
  have hlt := h.body_lt hid
  simp [Arena.allocBody] at hlt

/-- A free body is free when a further body is stored. -/
theorem FreeBody.allocBody {a : Arena} {b : BodyId} (h : FreeBody a b) (nodes : List NodeId) :
    FreeBody (a.allocBody nodes).1 b :=
  ⟨by simp only [Arena.allocBody, Array.size_push]; have := h.1; omega, h.2⟩

/-- A free node is free when a body without it is stored. -/
theorem FreeNode.allocBody {a : Arena} {id : NodeId} (h : FreeNode a id) {nodes : List NodeId}
    (hid : id ∉ nodes) : FreeNode (a.allocBody nodes).1 id := by
  refine ⟨h.1, fun b hb => ?_⟩
  rw [body_allocBody] at hb
  split at hb
  · exact hid hb
  · exact h.2 b hb

/-- What a cell with free bodies changes when it is allocated. -/
theorem Stores.alloc {a : Arena} (h : Forest a) {c : Cell} (hfree : ∀ b ∈ c.bodies, FreeBody a b)
    (hsingle : ∀ x b, c.block? = some (x, b) → c.bodies = [b]) :
    Grows a (a.alloc c).1 ∧ Forest (a.alloc c).1 ∧ FreeNode (a.alloc c).1 (a.alloc c).2 ∧
      (∀ id, FreeNode a id → FreeNode (a.alloc c).1 id) ∧
      ∀ b, FreeBody a b → b ∉ c.bodies → FreeBody (a.alloc c).1 b := by
  refine ⟨⟨?_, Nat.le_refl _, ?_, fun _ => rfl⟩, h.alloc hfree hsingle,
    freeNode_alloc h.toInRange c, fun _ hid => hid.alloc c, fun _ hb => hb.alloc⟩
  · simp [Arena.alloc]
  · intro id hid
    rw [cell?_alloc, if_neg (by omega)]

/-- What a body of free nodes changes when it is allocated. -/
theorem Stores.allocBody {a : Arena} (h : Forest a) {nodes : List NodeId}
    (hfree : ∀ id ∈ nodes, FreeNode a id) (hnodup : nodes.Nodup) :
    Grows a (a.allocBody nodes).1 ∧ Forest (a.allocBody nodes).1 ∧
      FreeBody (a.allocBody nodes).1 (a.allocBody nodes).2 ∧
      (∀ b, FreeBody a b → FreeBody (a.allocBody nodes).1 b) ∧
      ∀ id, FreeNode a id → id ∉ nodes → FreeNode (a.allocBody nodes).1 id := by
  refine ⟨⟨Nat.le_refl _, ?_, fun _ => rfl, ?_⟩, h.allocBody hfree hnodup,
    freeBody_allocBody h.toInRange nodes, fun _ hb => hb.allocBody nodes,
    fun _ hid => hid.allocBody⟩
  · simp [Arena.allocBody]
  · intro b hb
    rw [body_allocBody, if_neg (by omega)]

mutual

/-- A stored tree is still there when the arena grows. -/
theorem NodeAt.grow {a a' : Arena} (h : Forest a) (hg : Grows a a') {id : NodeId} {n : Node}
    (hn : NodeAt a id n) : NodeAt a' id n := by
  cases n with
  | literal t =>
    simp only [NodeAt] at hn ⊢
    rw [hg.cell? (lt_of_cell? hn), hn]
  | output o t =>
    simp only [NodeAt] at hn ⊢
    rw [hg.cell? (lt_of_cell? hn), hn]
  | tag head bodies t =>
    simp only [NodeAt] at hn ⊢
    obtain ⟨ids, hcell, hbodies⟩ := hn
    refine ⟨ids, by rw [hg.cell? (lt_of_cell? hcell), hcell], ?_⟩
    exact hbodies.grow h hg fun b hb => h.lt_of_mem_bodies hcell hb

/-- Stored nodes are still there when the arena grows. -/
theorem NodesAt.grow {a a' : Arena} (h : Forest a) (hg : Grows a a') {ids : List NodeId}
    {nodes : List Node} (hn : NodesAt a ids nodes) : NodesAt a' ids nodes := by
  cases nodes with
  | nil => simpa using hn
  | cons n rest =>
    simp only [NodesAt] at hn ⊢
    obtain ⟨id, others, rfl, hn, hrest⟩ := hn
    exact ⟨id, others, rfl, hn.grow h hg, hrest.grow h hg⟩

/-- Stored bodies are still there when the arena grows. -/
theorem BodiesAt.grow {a a' : Arena} (h : Forest a) (hg : Grows a a') {ids : List BodyId}
    {bodies : List (List Node)} (hn : BodiesAt a ids bodies)
    (hlt : ∀ b ∈ ids, b.index < a.bodies.size) : BodiesAt a' ids bodies := by
  cases bodies with
  | nil => simpa using hn
  | cons body rest =>
    simp only [BodiesAt] at hn ⊢
    obtain ⟨b, others, rfl, hbody, hrest⟩ := hn
    refine ⟨b, others, rfl, ?_, hrest.grow h hg fun b hb => hlt b (List.mem_cons_of_mem _ hb)⟩
    rw [hg.body (hlt b (List.mem_cons_self ..))]
    exact hbody.grow h hg

end

mutual

/-- The blocks of a stored tree are blocks of the arena. -/
theorem owns_of_mem_blocksAt {a : Arena} {id : NodeId} {n : Node} {x : String} {b : BodyId}
    (h : (x, b) ∈ blocksAt a id n) : Owns a x b := by
  cases n with
  | literal t => simp [blocksAt] at h
  | output o t => simp [blocksAt] at h
  | tag head bodies t =>
    simp only [blocksAt, List.mem_append, Option.mem_toList] at h
    rcases h with h | h
    · exact ⟨id, h⟩
    · exact owns_of_mem_blocksAtBodies h

/-- The blocks that are found in nodes own their bodies. -/
theorem owns_of_mem_blocksAtAll {a : Arena} {ids : List NodeId} {nodes : List Node} {x : String}
    {b : BodyId} (h : (x, b) ∈ blocksAtAll a ids nodes) : Owns a x b := by
  cases nodes with
  | nil => simp [blocksAtAll] at h
  | cons n rest =>
    cases ids with
    | nil => simp [blocksAtAll] at h
    | cons id ids =>
      simp only [blocksAtAll, List.mem_append] at h
      exact h.elim owns_of_mem_blocksAt owns_of_mem_blocksAtAll

/-- The blocks that are found in bodies own theirs. -/
theorem owns_of_mem_blocksAtBodies {a : Arena} {ids : List BodyId} {bodies : List (List Node)}
    {x : String} {b : BodyId} (h : (x, b) ∈ blocksAtBodies a ids bodies) : Owns a x b := by
  cases bodies with
  | nil => simp [blocksAtBodies] at h
  | cons body rest =>
    cases ids with
    | nil => simp [blocksAtBodies] at h
    | cons id ids =>
      simp only [blocksAtBodies, List.mem_append] at h
      exact h.elim owns_of_mem_blocksAtAll owns_of_mem_blocksAtBodies

end

mutual

/-- The blocks of a stored tree are the same when the arena grows. -/
theorem blocksAt_grow {a a' : Arena} (h : Forest a) (hg : Grows a a') {id : NodeId} {n : Node}
    (hn : NodeAt a id n) : blocksAt a' id n = blocksAt a id n := by
  cases n with
  | literal t => rfl
  | output o t => rfl
  | tag head bodies t =>
    obtain ⟨ids, hcell, hbodies⟩ := hn
    have hcell' : a'.cell? id = some (.tag head ids t) := by
      rw [hg.cell? (lt_of_cell? hcell), hcell]
    have hchildren := children_of_cell? hcell
    simp only [blocksAt, block?_of_cell? hcell, block?_of_cell? hcell', hchildren,
      children_of_cell? hcell']
    exact congrArg _ (blocksAtBodies_grow h hg hbodies fun b hb => h.lt_of_mem_bodies hcell hb)

/-- The blocks in nodes are the same when the arena grows. -/
theorem blocksAtAll_grow {a a' : Arena} (h : Forest a) (hg : Grows a a') {ids : List NodeId}
    {nodes : List Node} (hn : NodesAt a ids nodes) :
    blocksAtAll a' ids nodes = blocksAtAll a ids nodes := by
  cases nodes with
  | nil => simp [blocksAtAll]
  | cons n rest =>
    simp only [NodesAt] at hn
    obtain ⟨id, others, rfl, hn, hrest⟩ := hn
    simp only [blocksAtAll, blocksAt_grow h hg hn, blocksAtAll_grow h hg hrest]

/-- The blocks in bodies are the same when the arena grows. -/
theorem blocksAtBodies_grow {a a' : Arena} (h : Forest a) (hg : Grows a a') {ids : List BodyId}
    {bodies : List (List Node)} (hn : BodiesAt a ids bodies)
    (hlt : ∀ b ∈ ids, b.index < a.bodies.size) :
    blocksAtBodies a' ids bodies = blocksAtBodies a ids bodies := by
  cases bodies with
  | nil => simp [blocksAtBodies]
  | cons body rest =>
    simp only [BodiesAt] at hn
    obtain ⟨b, others, rfl, hbody, hrest⟩ := hn
    simp only [blocksAtBodies, hg.body (hlt b (List.mem_cons_self ..)), blocksAtAll_grow h hg hbody]
    rw [blocksAtBodies_grow h hg hrest fun b hb => hlt b (List.mem_cons_of_mem _ hb)]

end

mutual

/-- The blocks of a shaped tree have the names that the tree lists. -/
theorem map_fst_blocksAt {a : Arena} {id : NodeId} {n : Node} (hs : Node.Shaped n)
    (hn : NodeAt a id n) : (blocksAt a id n).map Prod.fst = Node.names n := by
  cases n with
  | literal t => rfl
  | output o t => rfl
  | tag head bodies t =>
    obtain ⟨ids, hcell, hbodies⟩ := hn
    have hinner := map_fst_blocksAtBodies hs.2 hbodies
    simp only [blocksAt, Node.names, List.map_append, block?_of_cell? hcell,
      children_of_cell? hcell]
    refine congrArg₂ _ ?_ hinner
    cases hhead : head.block? with
    | none => simp [Cell.block?, hhead]
    | some x =>
      obtain ⟨body, rfl⟩ := List.length_eq_one_iff.1 (hs.1 (by simp [hhead]))
      cases ids with
      | nil => simp at hbodies
      | cons b ids => simp [Cell.block?, hhead]

/-- The blocks that are found in stored nodes have the names of the blocks of these nodes. -/
theorem map_fst_blocksAtAll {a : Arena} {ids : List NodeId} {nodes : List Node}
    (hs : Node.ShapedAll nodes) (hn : NodesAt a ids nodes) :
    (blocksAtAll a ids nodes).map Prod.fst = Node.namesAll nodes := by
  cases nodes with
  | nil => simp [blocksAtAll, Node.namesAll]
  | cons n rest =>
    simp only [NodesAt] at hn
    obtain ⟨id, others, rfl, hn, hrest⟩ := hn
    have hfirst := map_fst_blocksAt hs.1 hn
    have hothers := map_fst_blocksAtAll hs.2 hrest
    simp only [blocksAtAll, Node.namesAll, List.map_append, hfirst, hothers]

/-- The blocks that are found in stored bodies have the names of the blocks of these bodies. -/
theorem map_fst_blocksAtBodies {a : Arena} {ids : List BodyId} {bodies : List (List Node)}
    (hs : Node.ShapedInBodies bodies) (hn : BodiesAt a ids bodies) :
    (blocksAtBodies a ids bodies).map Prod.fst = Node.namesInBodies bodies := by
  cases bodies with
  | nil => simp [blocksAtBodies, Node.namesInBodies]
  | cons body rest =>
    simp only [BodiesAt] at hn
    obtain ⟨b, others, rfl, hbody, hrest⟩ := hn
    have hfirst := map_fst_blocksAtAll hs.1 hbody
    have hothers := map_fst_blocksAtBodies hs.2 hrest
    simp only [blocksAtBodies, Node.namesInBodies, List.map_append, hfirst, hothers]

end

/-- The body of a block is in range. -/
theorem Forest.lt_of_owns {a : Arena} (h : Forest a) {x : String} {b : BodyId} (ho : Owns a x b) :
    b.index < a.bodies.size := by
  obtain ⟨id, hid⟩ := ho
  exact h.body_lt (h.mem_children hid)

/-- A body is that of a block of one name only. -/
theorem Forest.owns_unique {a : Arena} (h : Forest a) {x y : String} {b : BodyId} (hx : Owns a x b)
    (hy : Owns a y b) : x = y := by
  obtain ⟨id, hid⟩ := hx
  obtain ⟨id', hid'⟩ := hy
  have hsame := h.owner_unique (h.mem_children hid) (h.mem_children hid')
  rw [hsame, hid'] at hid
  simp only [Option.some.injEq, Prod.mk.injEq] at hid
  exact hid.1.symm

/-- The bodies of a node that is no block are no bodies of blocks. -/
theorem Forest.not_owns_of_mem_children {a : Arena} (h : Forest a) {id : NodeId} {b : BodyId}
    (hb : b ∈ a.children id) (hid : a.block? id = none) (x : String) : ¬ Owns a x b := by
  rintro ⟨id', hid'⟩
  have hsame := h.owner_unique hb (h.mem_children hid')
  rw [hsame, hid'] at hid
  cases hid

/-- A body that belongs to no node is no body of a block. -/
theorem Forest.not_owns_of_free {a : Arena} (h : Forest a) {b : BodyId} (hb : FreeBody a b)
    (x : String) : ¬ Owns a x b := by
  rintro ⟨id, hid⟩
  exact hb.2 id (h.mem_children hid)

/-- The tree at a handle, unless its bodies are more than `k` bodies deep. -/
def readNode (a : Arena) (k : Nat) (id : NodeId) : Option Node :=
  match a.cell? id with
  | none => none
  | some (.literal t) => some (.literal t)
  | some (.output o t) => some (.output o t)
  | some (.tag head bodies t) => (bodies.mapM (a.unfold k)).map fun bodies => .tag head bodies t

/-- A body is unfolded by reading its nodes to one level less. -/
theorem unfold_succ (a : Arena) (k : Nat) (b : BodyId) :
    a.unfold (k + 1) b = (a.body b).mapM (a.readNode k) := rfl

mutual

/-- A stored tree is read back when there is enough depth for it. -/
theorem readNode_of_nodeAt {a : Arena} {k : Nat} {id : NodeId} {n : Node} (hn : NodeAt a id n)
    (hk : Node.height n ≤ k) : a.readNode k id = some n := by
  unfold readNode
  cases n with
  | literal t => rw [show a.cell? id = some (.literal t) from hn]
  | output o t => rw [show a.cell? id = some (.output o t) from hn]
  | tag head bodies t =>
    obtain ⟨ids, hcell, hbodies⟩ := hn
    rw [hcell]
    simp only [mapM_unfold_of_bodiesAt hbodies hk, Option.map_some]

/-- Stored nodes are read back to any depth that is not below their height. -/
theorem mapM_readNode_of_nodesAt {a : Arena} {k : Nat} {ids : List NodeId} {nodes : List Node}
    (hn : NodesAt a ids nodes) (hk : Node.heightAll nodes ≤ k) :
    ids.mapM (a.readNode k) = some nodes := by
  cases nodes with
  | nil =>
    rw [(nodesAt_nil a ids).1 hn]
    rfl
  | cons n rest =>
    simp only [NodesAt] at hn
    obtain ⟨id, others, rfl, hn, hrest⟩ := hn
    simp only [Node.heightAll] at hk
    have hfirst := readNode_of_nodeAt hn (by omega : Node.height n ≤ k)
    have hothers := mapM_readNode_of_nodesAt hrest (by omega : Node.heightAll rest ≤ k)
    rw [List.mapM_cons, hfirst, hothers]
    rfl

/-- Stored bodies are unfolded to any depth that is not below their height. -/
theorem mapM_unfold_of_bodiesAt {a : Arena} {k : Nat} {ids : List BodyId}
    {bodies : List (List Node)}
    (hn : BodiesAt a ids bodies) (hk : Node.heightInBodies bodies ≤ k) :
    ids.mapM (a.unfold k) = some bodies := by
  cases bodies with
  | nil =>
    rw [(bodiesAt_nil a ids).1 hn]
    rfl
  | cons body rest =>
    simp only [BodiesAt] at hn
    obtain ⟨b, others, rfl, hbody, hrest⟩ := hn
    simp only [Node.heightInBodies] at hk
    obtain ⟨k, rfl⟩ : ∃ j, k = j + 1 := ⟨k - 1, by omega⟩
    have hfirst : a.unfold (k + 1) b = some body := by
      rw [unfold_succ]
      exact mapM_readNode_of_nodesAt hbody (by omega)
    have hothers := mapM_unfold_of_bodiesAt hrest (by omega : _ ≤ k + 1)
    rw [List.mapM_cons, hfirst, hothers]
    rfl

end

/-- Blocks with different bodies, none of which is among the first `n`. -/
structure FreshBlocks (n : Nat) (vs : List (String × BodyId)) : Prop where
  nodup : (vs.map Prod.snd).Nodup
  ge : ∀ v ∈ vs, n ≤ v.2.index

/-- No blocks are fresh ones. -/
theorem freshBlocks_nil (n : Nat) : FreshBlocks n [] := by
  constructor
  · simp
  · simp

/-- Fresh blocks and fresher ones after them are fresh. -/
theorem FreshBlocks.append {k n : Nat} {us vs : List (String × BodyId)} (hus : FreshBlocks k us)
    (hvs : FreshBlocks n vs) (hkn : k ≤ n) (hlt : ∀ u ∈ us, u.2.index < n) :
    FreshBlocks k (us ++ vs) := by
  constructor
  · rw [List.map_append]
    refine List.Nodup.append hus.nodup hvs.nodup fun b hb hin => ?_
    obtain ⟨u, hu, rfl⟩ := List.mem_map.1 hb
    obtain ⟨v, hv, heq⟩ := List.mem_map.1 hin
    have hlow := hlt u hu
    have hhigh := hvs.ge v hv
    rw [heq] at hhigh
    omega
  · intro v hv
    rcases List.mem_append.1 hv with hv | hv
    · exact hus.ge v hv
    · exact Nat.le_trans hkn (hvs.ge v hv)

/-- What storing trees gives: a forest that holds the arena before, with the trees at fresh handles
that stand in no body yet. -/
structure StoredAt (a a' : Arena) (ids : List NodeId) (nodes : List Node) : Prop
    extends Stores a a' where
  nodesAt : NodesAt a' ids nodes
  nodup : ids.Nodup
  free : ∀ id ∈ ids, FreeNode a' id ∧ a.cells.size ≤ id.index
  fresh : FreshBlocks a.bodies.size (blocksAtAll a' ids nodes)
  size_bodies : a'.bodies.size = a.bodies.size + Node.bodyCountAll nodes

/-- What storing bodies gives: a forest that holds the arena before, with the bodies at fresh
handles that belong to no node yet. -/
structure BodiesStoredAt (a a' : Arena) (ids : List BodyId) (bodies : List (List Node)) : Prop
    extends Stores a a' where
  bodiesAt : BodiesAt a' ids bodies
  length_eq : ids.length = bodies.length
  free : ∀ b ∈ ids, FreeBody a' b ∧ a.bodies.size ≤ b.index
  fresh : FreshBlocks a.bodies.size (blocksAtBodies a' ids bodies)
  size_bodies : a'.bodies.size = a.bodies.size + Node.bodyCountInBodies bodies

/-- What storing trees as a body gives: a fresh body that belongs to no node and holds the trees. -/
structure BodyStoredAt (a a' : Arena) (root : BodyId) (nodes : List Node) : Prop
    extends Stores a a' where
  free : FreeBody a' root
  ge : a.bodies.size ≤ root.index
  nodesAt : NodesAt a' (a'.body root) nodes
  fresh : FreshBlocks a.bodies.size (blocksAtAll a' (a'.body root) nodes)
  size_bodies : a'.bodies.size = a.bodies.size + (Node.bodyCountAll nodes + 1)

/-- A node without bodies is stored in a cell of its own. -/
theorem storedAt_leaf {a : Arena} (h : Forest a) {c : Cell} {n : Node} (hbodies : c.bodies = [])
    (hblock : c.block? = none) (hn : NodeAt (a.alloc c).1 (a.alloc c).2 n)
    (hblocks : blocksAt (a.alloc c).1 (a.alloc c).2 n = []) (hcount : Node.bodyCount n = 0) :
    StoredAt a (a.alloc c).1 [(a.alloc c).2] [n] := by
  have hfree : ∀ b ∈ c.bodies, FreeBody a b := by simp [hbodies]
  have hsingle : ∀ x b, c.block? = some (x, b) → c.bodies = [b] := by simp [hblock]
  obtain ⟨hgrows, hforest, hfree, hnodes, hbods⟩ := Stores.alloc h hfree hsingle
  have hstores : Stores a (a.alloc c).1 :=
    ⟨hgrows, hforest, fun hid => hnodes _ hid, fun hb => hbods _ hb (by simp [hbodies])⟩
  refine ⟨hstores, by simpa using hn, by simp, ?_, ?_, ?_⟩
  · simp only [List.mem_singleton, forall_eq]
    exact ⟨hfree, by simp [Arena.alloc]⟩
  · simp only [blocksAtAll, hblocks, List.append_nil]
    exact freshBlocks_nil _
  · simp [Arena.alloc, Node.bodyCountAll, hcount]

/-- A tag that stands for a block has a single body, once its bodies are stored. -/
theorem bodies_of_block? {head : Head} {ids : List BodyId} {bodies : List (List Node)} {t : Token}
    (hblock : head.block?.isSome → bodies.length = 1) (hlen : ids.length = bodies.length)
    (x : String) (b : BodyId) (hb : (Cell.tag head ids t).block? = some (x, b)) :
    (Cell.tag head ids t).bodies = [b] := by
  cases hhead : head.block? with
  | none => simp [Cell.block?, hhead] at hb
  | some y =>
    obtain ⟨o, rfl⟩ := List.length_eq_one_iff.1 (hlen.trans (hblock (by simp [hhead])))
    simp only [Cell.block?, hhead, Option.some.injEq, Prod.mk.injEq] at hb
    simp [Cell.bodies, hb.2]

mutual

/-- A node is stored with all that is in it. -/
theorem storeNode_spec {a : Arena} (h : Forest a) {n : Node} (hn : Node.Shaped n) :
    StoredAt a (storeNode n a).1 [(storeNode n a).2] [n] := by
  cases n with
  | literal t => exact storedAt_leaf h rfl rfl (cell?_alloc_self a _) rfl rfl
  | output o t => exact storedAt_leaf h rfl rfl (cell?_alloc_self a _) rfl rfl
  | tag head bodies t =>
    obtain ⟨hblock, hshaped⟩ := hn
    have hstored := storeBodies_spec h hshaped
    simp only [storeNode]
    generalize storeBodies bodies a = stored at hstored
    obtain ⟨b, ids⟩ := stored
    dsimp only at hstored ⊢
    have hsingle := bodies_of_block? (t := t) hblock hstored.length_eq
    have hfresh : ∀ o ∈ ids, FreeBody b o := fun o ho => (hstored.free o ho).1
    obtain ⟨hgrows, hforest, hfree, hnodes, hbods⟩ :=
      Stores.alloc hstored.forest (c := .tag head ids t) hfresh hsingle
    have hcell := cell?_alloc_self b (.tag head ids t)
    have hblocks :
        blocksAt (b.alloc (.tag head ids t)).1 (b.alloc (.tag head ids t)).2 (.tag head bodies t) =
          (Cell.tag head ids t).block?.toList ++ blocksAtBodies b ids bodies := by
      rw [blocksAt, block?_of_cell? hcell, children_of_cell? hcell]
      refine congrArg _ ?_
      exact blocksAtBodies_grow hstored.forest hgrows hstored.bodiesAt fun o ho => (hfresh o ho).1
    have hown : ∀ e ∈ (Cell.tag head ids t).block?.toList, e.2 ∈ ids := by
      rintro ⟨x, o⟩ ho
      have hids : ids = [o] := hsingle x o (Option.mem_toList.1 ho)
      exact hids ▸ List.mem_singleton_self o
    have hstores : Stores a (b.alloc (.tag head ids t)).1 := by
      refine ⟨hstored.toGrows.trans hgrows, hforest, fun hid => hnodes _ (hstored.freeNode hid), ?_⟩
      intro o ho
      refine hbods o (hstored.freeBody ho) fun hmem => ?_
      have hge := (hstored.free o hmem).2
      have hlt := ho.1
      omega
    refine ⟨hstores, ?_, by simp, ?_, ?_, ?_⟩
    · simp only [nodesAt_cons, nodesAt_nil, and_true, NodeAt]
      refine ⟨ids, hcell, ?_⟩
      exact hstored.bodiesAt.grow hstored.forest hgrows fun o ho => (hfresh o ho).1
    · simp only [List.mem_singleton, forall_eq]
      exact ⟨hfree, hstored.cells_le⟩
    · simp only [blocksAtAll, List.append_nil, hblocks]
      constructor
      · rw [List.map_append]
        refine List.Nodup.append ?_ hstored.fresh.nodup ?_
        · cases (Cell.tag head ids t).block? <;> simp
        · -- an inner block has an owner already, and the bodies of the new cell have none
          intro o ho hin
          obtain ⟨⟨x, o'⟩, hmem, rfl⟩ := List.mem_map.1 ho
          obtain ⟨⟨y, o''⟩, hmem', heq⟩ := List.mem_map.1 hin
          obtain ⟨id, hid⟩ := owns_of_mem_blocksAtBodies hmem'
          have hchild := hstored.forest.mem_children hid
          rw [show o'' = o' from heq] at hchild
          exact (hfresh o' (hown _ hmem)).2 id hchild
      · intro e he
        rcases List.mem_append.1 he with he | he
        · exact (hstored.free e.2 (hown e he)).2
        · exact hstored.fresh.ge e he
    · simp only [Arena.alloc, hstored.size_bodies, Node.bodyCountAll, Node.bodyCount, Nat.add_zero]

/-- Nodes are stored with all that is in them. -/
theorem storeNodes_spec {a : Arena} (h : Forest a) {nodes : List Node}
    (hn : Node.ShapedAll nodes) :
    StoredAt a (storeNodes nodes a).1 (storeNodes nodes a).2 nodes := by
  cases nodes with
  | nil =>
    refine ⟨Stores.refl h, ?_, ?_, ?_, freshBlocks_nil _, ?_⟩
    all_goals simp [storeNodes, Node.bodyCountAll]
  | cons n rest =>
    have hfirst := storeNode_spec h hn.1
    have hrest := storeNodes_spec hfirst.forest hn.2
    simp only [storeNodes]
    generalize storeNode n a = stored at hfirst hrest
    obtain ⟨b, id⟩ := stored
    dsimp only at hfirst hrest ⊢
    generalize storeNodes rest b = stored at hrest
    obtain ⟨c, ids⟩ := stored
    dsimp only at hrest ⊢
    have hid := hfirst.free id (List.mem_singleton_self id)
    have hgrown := hfirst.nodesAt.grow hfirst.forest hrest.toGrows
    have hblocks : blocksAtAll c (id :: ids) (n :: rest) =
        blocksAtAll b [id] [n] ++ blocksAtAll c ids rest := by
      rw [← blocksAtAll_grow hfirst.forest hrest.toGrows hfirst.nodesAt]
      simp only [blocksAtAll, List.append_nil]
    refine ⟨hfirst.toStores.trans hrest.toStores, ?_, ?_, ?_, ?_, ?_⟩
    · exact (nodesAt_cons ..).2 ⟨((nodesAt_cons ..).1 hgrown).1, hrest.nodesAt⟩
    · refine List.nodup_cons.2 ⟨fun hmem => ?_, hrest.nodup⟩
      have hge := (hrest.free id hmem).2
      have hlt := hid.1.1
      omega
    · refine List.forall_mem_cons.2 ⟨⟨hrest.freeNode hid.1, hid.2⟩, fun other hother => ?_⟩
      obtain ⟨hfree, hge⟩ := hrest.free other hother
      exact ⟨hfree, Nat.le_trans hfirst.cells_le hge⟩
    · rw [hblocks]
      refine hfirst.fresh.append hrest.fresh hfirst.bodies_le fun u hu => ?_
      exact hfirst.forest.lt_of_owns (owns_of_mem_blocksAtAll hu)
    · have hsize := hfirst.size_bodies
      simp only [Node.bodyCountAll, Nat.add_zero] at hsize ⊢
      rw [hrest.size_bodies, hsize, Nat.add_assoc]

/-- Bodies are stored with all that is in them. -/
theorem storeBodies_spec {a : Arena} (h : Forest a) {bodies : List (List Node)}
    (hn : Node.ShapedInBodies bodies) :
    BodiesStoredAt a (storeBodies bodies a).1 (storeBodies bodies a).2 bodies := by
  cases bodies with
  | nil =>
    refine ⟨Stores.refl h, ?_, ?_, ?_, freshBlocks_nil _, ?_⟩
    all_goals simp [storeBodies, Node.bodyCountInBodies]
  | cons body rest =>
    have hfirst := storeBody_spec h hn.1
    have hrest := storeBodies_spec hfirst.forest hn.2
    have hstep : storeBodies (body :: rest) a = ((storeBodies rest (storeBody body a).1).1,
        (storeBody body a).2 :: (storeBodies rest (storeBody body a).1).2) := rfl
    rw [hstep]
    generalize storeBody body a = stored at hfirst hrest
    obtain ⟨b, root⟩ := stored
    dsimp only at hfirst hrest ⊢
    generalize storeBodies rest b = stored at hrest
    obtain ⟨c, ids⟩ := stored
    dsimp only at hrest ⊢
    have hbody : c.body root = b.body root := hrest.body hfirst.free.1
    have hblocks : blocksAtBodies c (root :: ids) (body :: rest) =
        blocksAtAll b (b.body root) body ++ blocksAtBodies c ids rest := by
      rw [blocksAtBodies, hbody, blocksAtAll_grow hfirst.forest hrest.toGrows hfirst.nodesAt]
    refine ⟨hfirst.toStores.trans hrest.toStores, ?_, ?_, ?_, ?_, ?_⟩
    · rw [bodiesAt_cons, hbody]
      exact ⟨hfirst.nodesAt.grow hfirst.forest hrest.toGrows, hrest.bodiesAt⟩
    · simp [hrest.length_eq]
    · refine List.forall_mem_cons.2 ⟨⟨hrest.freeBody hfirst.free, hfirst.ge⟩, fun b' hb' => ?_⟩
      obtain ⟨hfree, hge⟩ := hrest.free b' hb'
      exact ⟨hfree, Nat.le_trans hfirst.bodies_le hge⟩
    · rw [hblocks]
      refine hfirst.fresh.append hrest.fresh hfirst.bodies_le fun u hu => ?_
      exact hfirst.forest.lt_of_owns (owns_of_mem_blocksAtAll hu)
    · rw [hrest.size_bodies, hfirst.size_bodies, Node.bodyCountInBodies, Nat.add_assoc]

/-- A body is stored with all that is in it. -/
theorem storeBody_spec {a : Arena} (h : Forest a) {nodes : List Node} (hn : Node.ShapedAll nodes) :
    BodyStoredAt a (storeBody nodes a).1 (storeBody nodes a).2 nodes := by
  have hstored := storeNodes_spec h hn
  simp only [storeBody]
  generalize storeNodes nodes a = stored at hstored
  obtain ⟨b, ids⟩ := stored
  dsimp only at hstored ⊢
  have hfreeIds : ∀ id ∈ ids, FreeNode b id := fun id hid => (hstored.free id hid).1
  obtain ⟨hgrows, hforest, hfree, hbods, hnodes⟩ :=
    Stores.allocBody hstored.forest hfreeIds hstored.nodup
  have hstores : Stores a (b.allocBody ids).1 := by
    refine ⟨hstored.toGrows.trans hgrows, hforest, ?_, fun hb => hbods _ (hstored.freeBody hb)⟩
    intro id hid
    refine hnodes id (hstored.freeNode hid) fun hmem => ?_
    have hge := (hstored.free id hmem).2
    have hlt := hid.1
    omega
  have hbody : (b.allocBody ids).1.body (b.allocBody ids).2 = ids := by
    rw [body_allocBody, if_pos (show (b.allocBody ids).2.index = b.bodies.size from rfl)]
  refine ⟨hstores, hfree, hstored.bodies_le, ?_, ?_, ?_⟩
  · rw [hbody]
    exact hstored.nodesAt.grow hstored.forest hgrows
  · rw [hbody, blocksAtAll_grow hstored.forest hgrows hstored.nodesAt]
    exact hstored.fresh
  · simp only [Arena.allocBody, Array.size_push, hstored.size_bodies]
    omega

end

end Arena

namespace Template

open Arena

/-- The levels of a chain as they are stored: each as a body that belongs to no node. -/
def LevelsAt (a : Arena) (roots : List BodyId) (levels : List (List Node)) : Prop :=
  List.Forall₂ (fun root nodes => FreeBody a root ∧ NodesAt a (a.body root) nodes) roots levels

/-- The blocks of some stored levels with their bodies, level by level. -/
def blocksOf (a : Arena) (roots : List BodyId) (levels : List (List Node)) :
    List (String × BodyId) :=
  (List.zipWith (fun root nodes => blocksAtAll a (a.body root) nodes) roots levels).flatten

/-- Stored levels are still there when more is stored. -/
theorem LevelsAt.grow {a a' : Arena} (h : Forest a) (hs : Stores a a') {roots : List BodyId}
    {levels : List (List Node)} (hl : LevelsAt a roots levels) : LevelsAt a' roots levels := by
  refine List.Forall₂.imp (fun root nodes hroot => ?_) hl
  refine ⟨hs.freeBody hroot.1, ?_⟩
  rw [hs.body hroot.1.1]
  exact hroot.2.grow h hs.toGrows

/-- The blocks of the first level are in front of those of the further ones. -/
theorem blocksOf_cons (a : Arena) (root : BodyId) (roots : List BodyId) (nodes : List Node)
    (levels : List (List Node)) :
    blocksOf a (root :: roots) (nodes :: levels) = blocksAtAll a (a.body root) nodes ++
      blocksOf a roots levels := rfl

/-- The blocks of levels own their bodies. -/
theorem owns_of_mem_blocksOf {a : Arena} {roots : List BodyId} {levels : List (List Node)}
    {x : String} {b : BodyId} (h : (x, b) ∈ blocksOf a roots levels) : Owns a x b := by
  induction roots generalizing levels with
  | nil => simp [blocksOf] at h
  | cons root roots ih =>
    cases levels with
    | nil => simp [blocksOf] at h
    | cons nodes levels =>
      rw [blocksOf_cons, List.mem_append] at h
      exact h.elim owns_of_mem_blocksAtAll ih

/-- Each level has one root. -/
theorem length_storeLevels (levels : List (List Node)) (a : Arena) :
    (storeLevels levels a).2.length = levels.length := by
  induction levels generalizing a with
  | nil => rfl
  | cons nodes rest ih => simp only [storeLevels, List.length_cons, ih]

/-- What storing the levels of a chain gives: a forest with one root body for each level, with all
their blocks apart, and with as many bodies as the levels have, roots included. -/
structure LevelsStoredAt (a a' : Arena) (roots : List BodyId) (levels : List (List Node)) : Prop
    extends Stores a a' where
  levelsAt : LevelsAt a' roots levels
  nodup : roots.Nodup
  ge : ∀ root ∈ roots, a.bodies.size ≤ root.index
  fresh : FreshBlocks a.bodies.size (blocksOf a' roots levels)
  size_bodies : a'.bodies.size = a.bodies.size + Node.bodyCountInBodies levels

/-- Levels are stored with all that is in them. -/
theorem storeLevels_spec {a : Arena} (h : Forest a) {levels : List (List Node)}
    (hn : ∀ nodes ∈ levels, Node.ShapedAll nodes) :
    LevelsStoredAt a (storeLevels levels a).1 (storeLevels levels a).2 levels := by
  induction levels generalizing a with
  | nil =>
    refine ⟨Stores.refl h, .nil, ?_, ?_, freshBlocks_nil _, ?_⟩
    all_goals simp [storeLevels, Node.bodyCountInBodies]
  | cons nodes rest ih =>
    have hfirst := storeBody_spec h (hn nodes (List.mem_cons_self ..))
    have hrest := @ih (storeBody nodes a).1 hfirst.forest fun l hl =>
      hn l (List.mem_cons_of_mem _ hl)
    simp only [storeLevels]
    generalize storeBody nodes a = stored at hfirst hrest
    obtain ⟨b, root⟩ := stored
    dsimp only at hfirst hrest ⊢
    generalize storeLevels rest b = stored at hrest
    obtain ⟨c, roots⟩ := stored
    dsimp only at hrest ⊢
    have hblocks : blocksOf c (root :: roots) (nodes :: rest) =
        blocksAtAll b (b.body root) nodes ++ blocksOf c roots rest := by
      rw [blocksOf_cons, hrest.body hfirst.free.1,
        blocksAtAll_grow hfirst.forest hrest.toGrows hfirst.nodesAt]
    refine ⟨hfirst.toStores.trans hrest.toStores, ?_, ?_, ?_, ?_, ?_⟩
    · have hroot : LevelsAt b [root] [nodes] := .cons ⟨hfirst.free, hfirst.nodesAt⟩ .nil
      cases hroot.grow hfirst.forest hrest.toStores with
      | cons hroot _ => exact .cons hroot hrest.levelsAt
    · refine List.nodup_cons.2 ⟨fun hmem => ?_, hrest.nodup⟩
      have hlt := hfirst.free.1
      have hge := hrest.ge root hmem
      omega
    · refine List.forall_mem_cons.2 ⟨hfirst.ge, fun r hr => ?_⟩
      exact Nat.le_trans hfirst.bodies_le (hrest.ge r hr)
    · rw [hblocks]
      refine hfirst.fresh.append hrest.fresh hfirst.bodies_le fun u hu => ?_
      exact hfirst.forest.lt_of_owns (owns_of_mem_blocksAtAll hu)
    · rw [hrest.size_bodies, hfirst.size_bodies, Node.bodyCountInBodies, Nat.add_assoc]

end Template

end Stencil
