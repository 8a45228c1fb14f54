import Mathlib.Data.List.Nodup
import Stencil.Proofs.Arena.Depth

/-!
# Well-formed arenas

An arena is well-formed if its handles are in range, if they are not shared, and if the nodes in a
body are older than the node that holds the body (`Arena.WellFormed`).  It stays so when a node is
stored with bodies that belong to no node, or a body with nodes that stand in no body
(`Loose.alloc`, `Loose.allocBody`): what is stored is newer than all that it refers to.  So no path
through a well-formed arena goes on for ever, and every body of it has a tree
(`WellFormed.exists_tree`).
-/

set_option autoImplicit false

namespace Stencil

namespace Arena

/-- The handles in an arena are in range and are not shared, and a node is newer than the nodes in
its bodies. -/
structure WellFormed (a : Arena) : Prop extends Unshared a where
  older : ∀ {id b inner}, b ∈ a.children id → inner ∈ a.body b → inner.index < id.index

/-- A well-formed arena with some nodes that stand in no body yet and some bodies that belong to no
node yet. -/
structure Loose (a : Arena) (nodes : List NodeId) (bodies : List BodyId) : Prop where
  wellFormed : WellFormed a
  freeNode : ∀ id ∈ nodes, FreeNode a id
  freeBody : ∀ b ∈ bodies, FreeBody a b
  nodup_nodes : nodes.Nodup
  nodup_bodies : bodies.Nodup

variable {a : Arena}

/-- An empty arena is well formed. -/
theorem wellFormed_empty : WellFormed {} where
  node_lt h := by simp [body] at h
  body_lt h := by simp [children, cell?] at h
  nodup b := by simp [body]
  body_unique h := by simp [body] at h
  owner_unique h := by simp [children, cell?] at h
  older h := by simp [children, cell?] at h

section Storing

/-- A cell whose bodies are free keeps an arena well formed. -/
theorem WellFormed.alloc (h : WellFormed a) {c : Cell} (hfree : ∀ b ∈ c.bodies, FreeBody a b) :
    WellFormed (a.alloc c).1 where
  toUnshared := h.toUnshared.alloc hfree
  older {id b inner} hb hinner := by
    rw [children_alloc] at hb
    split at hb
    · next e => exact e ▸ h.node_lt hinner
    · exact h.older hb hinner

/-- A body of different free nodes keeps an arena well formed. -/
theorem WellFormed.allocBody (h : WellFormed a) {nodes : List NodeId}
    (hfree : ∀ id ∈ nodes, FreeNode a id) (hnodup : nodes.Nodup) :
    WellFormed (a.allocBody nodes).1 where
  toUnshared := h.toUnshared.allocBody hfree hnodup
  older {id b inner} hb hinner := by
    -- the new body has no owner yet
    have hlt := h.body_lt hb
    rw [body_allocBody, if_neg (Nat.ne_of_lt hlt)] at hinner
    exact h.older hb hinner

end Storing

namespace Loose

variable {nodes nodes' : List NodeId} {bodies bodies' : List BodyId}

/-- In a well-formed arena, nothing needs to be loose. -/
theorem of_wellFormed (h : WellFormed a) : Loose a [] [] :=
  ⟨h, by simp, by simp, List.nodup_nil, List.nodup_nil⟩

/-- Of what is loose, the order does not count. -/
theorem perm (h : Loose a nodes bodies) (hnodes : nodes.Perm nodes')
    (hbodies : bodies.Perm bodies') : Loose a nodes' bodies' where
  wellFormed := h.wellFormed
  freeNode id hid := h.freeNode id (hnodes.mem_iff.2 hid)
  freeBody b hb := h.freeBody b (hbodies.mem_iff.2 hb)
  nodup_nodes := hnodes.nodup h.nodup_nodes
  nodup_bodies := hbodies.nodup h.nodup_bodies

/-- Fewer of the loose nodes are loose, too. -/
theorem of_append {own : List NodeId} (h : Loose a (own ++ nodes) bodies) :
    Loose a nodes bodies where
  wellFormed := h.wellFormed
  freeNode id hid := h.freeNode id (List.mem_append_right _ hid)
  freeBody := h.freeBody
  nodup_nodes := (List.nodup_append'.1 h.nodup_nodes).2.1
  nodup_bodies := h.nodup_bodies

/-- A node is stored with bodies that belong to it from then on, and stands in no body yet. -/
theorem alloc {c : Cell} (h : Loose a nodes (c.bodies ++ bodies)) :
    Loose (a.alloc c).1 ((a.alloc c).2 :: nodes) bodies := by
  obtain ⟨hown, hrest, hapart⟩ := List.nodup_append'.1 h.nodup_bodies
  have hfree : ∀ b ∈ c.bodies, FreeBody a b := fun b hb => h.freeBody b (List.mem_append_left _ hb)
  refine ⟨h.wellFormed.alloc hfree, ?_, ?_, ?_, hrest⟩
  · exact List.forall_mem_cons.2 ⟨freeNode_alloc h.wellFormed.toInRange c,
      fun id hid => (h.freeNode id hid).alloc c⟩
  · exact fun b hb => (h.freeBody b (List.mem_append_right _ hb)).alloc fun hc => hapart hc hb
  · refine List.nodup_cons.2 ⟨fun hmem => ?_, h.nodup_nodes⟩
    have hlt := (h.freeNode _ hmem).1
    simp [Arena.alloc] at hlt

/-- A body is stored with nodes that stand in it from then on, and belongs to no node yet. -/
theorem allocBody {own : List NodeId} (h : Loose a (own ++ nodes) bodies) :
    Loose (a.allocBody own).1 nodes ((a.allocBody own).2 :: bodies) := by
  obtain ⟨hown, hrest, hapart⟩ := List.nodup_append'.1 h.nodup_nodes
  have hfree : ∀ id ∈ own, FreeNode a id := fun id hid => h.freeNode id (List.mem_append_left _ hid)
  refine ⟨h.wellFormed.allocBody hfree hown, ?_, ?_, hrest, ?_⟩
  · exact fun id hid =>
      (h.freeNode id (List.mem_append_right _ hid)).allocBody fun hown => hapart hown hid
  · exact List.forall_mem_cons.2 ⟨freeBody_allocBody h.wellFormed.toInRange own,
      fun b hb => (h.freeBody b hb).allocBody own⟩
  · refine List.nodup_cons.2 ⟨fun hmem => ?_, h.nodup_bodies⟩
    have hlt := (h.freeBody _ hmem).1
    simp [Arena.allocBody] at hlt

end Loose

section Trees

/-- A handle in range has a cell. -/
theorem exists_cell?_of_lt {id : NodeId} (h : id.index < a.cells.size) :
    ∃ c, a.cell? id = some c :=
  ⟨a.cells[id.index], Array.getElem?_eq_getElem h⟩

/-- A node of a body has a cell. -/
theorem InRange.exists_cell? (h : InRange a) {b : BodyId} {id : NodeId} (hid : id ∈ a.body b) :
    ∃ c, a.cell? id = some c :=
  exists_cell?_of_lt (h.node_lt hid)

/-- A path through a well-formed arena leads to older and older nodes. -/
theorem WellFormed.grounded (h : WellFormed a) (b : BodyId) : a.Grounded b := by
  have hbelow (n : Nat) : ∀ b, (∀ id ∈ a.body b, id.index < n) → a.Grounded b := by
    induction n using Nat.strongRecOn with
    | ind n ih =>
      intro b hb
      refine Acc.intro b fun c hc => ?_
      obtain ⟨id, hid, hchild⟩ := hc
      exact ih id.index (hb id hid) c fun inner hinner => h.older hchild hinner
  exact hbelow a.cells.size b fun id hid => h.node_lt hid

/-- Every body of a well-formed arena has a tree. -/
theorem WellFormed.exists_tree (h : WellFormed a) (b : BodyId) : ∃ nodes, a.tree? b = some nodes :=
  Arena.exists_tree h.body_lt h.exists_cell? (h.grounded b)

end Trees

end Arena

end Stencil
