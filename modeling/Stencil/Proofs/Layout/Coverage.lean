import Stencil.Proofs.Layout.Agreement

/-!
# The nodes of stored levels

Every node of an arena that levels were stored in is below the root of one of them
(`Template.exists_level`), and of no other (`Arena.Forest.level_unique`).  What the nodes of a level
hold is shaped, and its blocks are nested as they are in the level (`Node.Holds.nestings_subset`).
-/

set_option autoImplicit false

namespace Stencil

namespace Arena

section Below

variable {a a' : Arena} {root b : BodyId} {top id : NodeId}

/-- A node itself, or one of those below its bodies. -/
def Under (a : Arena) (top id : NodeId) : Prop :=
  id = top ∨ ∃ b ∈ a.children top, a.Below b id

/-- A node that is reached is in range. -/
theorem Below.lt (ha : Forest a) (h : a.Below root id) : id.index < a.cells.size := by
  cases h with
  | direct h => exact ha.node_lt h
  | deep _ _ h => exact ha.node_lt h

/-- What is below a body of a node that is reached is reached. -/
theorem Below.trans (htop : a.Below root top) (hb : b ∈ a.children top) (h : a.Below b id) :
    a.Below root id := by
  induction h with
  | direct h => exact .deep htop hb h
  | deep _ hc hid ih => exact .deep ih hc hid

/-- What is under a node of a body is reached from the body. -/
theorem Below.of_under (htop : top ∈ a.body root) (h : a.Under top id) : a.Below root id := by
  rcases h with rfl | ⟨b, hb, h⟩
  · exact .direct htop
  · exact (Below.direct htop).trans hb h

/-- A stored node keeps its bodies when the arena grows. -/
theorem Grows.children (hg : Grows a a') (hid : id.index < a.cells.size) :
    a'.children id = a.children id := by
  simp only [Arena.children, hg.cell? hid]

/-- What was below a body is below it when the arena grows. -/
theorem Below.grow (ha : Forest a) (hg : Grows a a') (hroot : root.index < a.bodies.size)
    (h : a.Below root id) : a'.Below root id := by
  induction h with
  | direct h => exact .direct (by rwa [hg.body hroot])
  | @deep _ _ b h hb hid ih =>
    refine .deep ih (b := b) ?_ ?_
    · rwa [hg.children (h.lt ha)]
    · rwa [hg.body (ha.body_lt hb)]

/-- What is under a stored node is there when the arena grows. -/
theorem Under.grow (ha : Forest a) (hg : Grows a a') (htop : top.index < a.cells.size)
    (h : a.Under top id) : a'.Under top id := by
  rcases h with rfl | ⟨b, hb, h⟩
  · exact .inl rfl
  · exact .inr ⟨b, by rwa [hg.children htop], h.grow ha hg (ha.body_lt hb)⟩

/-- A node is below one body only of those that belong to no node. -/
theorem Forest.level_unique (ha : Forest a) {r r' : BodyId} (hr : FreeBody a r)
    (hr' : FreeBody a r') (h : a.Below r id) (h' : a.Below r' id) : r = r' := by
  induction h with
  | direct hid =>
    cases h' with
    | direct hid' => exact ha.body_unique hid hid'
    | deep _ hb hid' =>
      cases ha.body_unique hid hid'
      exact absurd hb (hr.2 _)
  | deep _ hb hid ih =>
    cases h' with
    | direct hid' =>
      cases ha.body_unique hid hid'
      exact absurd hb (hr'.2 _)
    | deep h' hb' hid' =>
      cases ha.body_unique hid hid'
      cases ha.owner_unique hb hb'
      exact ih h'

end Below

section Store

mutual

/-- Storing a tree adds no nodes but those of the tree. -/
theorem under_storeNode {a : Arena} (ha : Forest a) {n : Node} (hn : Node.Shaped n) {id : NodeId}
    (hid : id.index < (storeNode n a).1.cells.size) :
    id.index < a.cells.size ∨ (storeNode n a).1.Under (storeNode n a).2 id := by
  have hself {b : Arena} {c : Cell} (h : id.index < (b.alloc c).1.cells.size) :
      id.index < b.cells.size ∨ id = (b.alloc c).2 := by
    simp only [alloc, Array.size_push] at h ⊢
    cases id
    simp only [NodeId.mk.injEq] at h ⊢
    omega
  cases n with
  | literal t => exact (hself hid).imp_right .inl
  | output o t => exact (hself hid).imp_right .inl
  | tag head bodies t =>
    obtain ⟨hblock, hshaped⟩ := hn
    have hstored := storeBodies_spec ha hshaped
    have hbodies := @below_storeBodies a ha bodies hshaped id
    simp only [storeNode] at hid ⊢
    generalize storeBodies bodies a = stored at hstored hbodies hid
    obtain ⟨b, ids⟩ := stored
    dsimp only at hstored hbodies hid ⊢
    have hfree : ∀ o ∈ ids, FreeBody b o := fun o ho => (hstored.free o ho).1
    have hsingle := bodies_of_block? (t := t) hblock hstored.length_eq
    obtain ⟨hgrows, -⟩ := Stores.alloc hstored.forest (c := .tag head ids t) hfree hsingle
    rcases hself hid with hlt | rfl
    · refine (hbodies hlt).imp_right fun ⟨o, ho, hbelow⟩ => .inr ⟨o, ?_, ?_⟩
      · rwa [children_of_cell? (cell?_alloc_self b _)]
      · exact hbelow.grow hstored.forest hgrows (hfree o ho).1
    · exact .inr (.inl rfl)

/-- Nodes that are new in the arena are under those that were stored. -/
theorem under_storeNodes {a : Arena} (ha : Forest a) {nodes : List Node}
    (hn : Node.ShapedAll nodes) {id : NodeId}
    (hid : id.index < (storeNodes nodes a).1.cells.size) :
    id.index < a.cells.size ∨
      ∃ top ∈ (storeNodes nodes a).2, (storeNodes nodes a).1.Under top id := by
  cases nodes with
  | nil => exact .inl hid
  | cons n rest =>
    have hfirst := storeNode_spec ha hn.1
    have hrest := storeNodes_spec hfirst.forest hn.2
    have hunder := @under_storeNode a ha n hn.1 id
    have hothers := @under_storeNodes _ hfirst.forest rest hn.2 id hid
    simp only [storeNodes]
    rcases hothers with hlt | ⟨top, htop, h⟩
    · refine (hunder hlt).imp_right fun h => ⟨_, List.mem_cons_self .., ?_⟩
      exact h.grow hfirst.forest hrest.toGrows (hfirst.free _ (List.mem_singleton_self _)).1.1
    · exact .inr ⟨top, List.mem_cons_of_mem _ htop, h⟩

/-- Nodes that are new in the arena are below the bodies that were stored. -/
theorem below_storeBodies {a : Arena} (ha : Forest a) {bodies : List (List Node)}
    (hn : Node.ShapedInBodies bodies) {id : NodeId}
    (hid : id.index < (storeBodies bodies a).1.cells.size) :
    id.index < a.cells.size ∨
      ∃ b ∈ (storeBodies bodies a).2, (storeBodies bodies a).1.Below b id := by
  cases bodies with
  | nil => exact .inl hid
  | cons body rest =>
    have hfirst := storeBody_spec ha hn.1
    have hrest := storeBodies_spec hfirst.forest hn.2
    have hbelow := @below_storeBody a ha body hn.1 id
    have hothers := @below_storeBodies _ hfirst.forest rest hn.2 id hid
    have hstep : storeBodies (body :: rest) a = ((storeBodies rest (storeBody body a).1).1,
        (storeBody body a).2 :: (storeBodies rest (storeBody body a).1).2) := rfl
    rw [hstep]
    rcases hothers with hlt | ⟨b, hb, h⟩
    · refine (hbelow hlt).imp_right fun h => ⟨_, List.mem_cons_self .., ?_⟩
      exact h.grow hfirst.forest hrest.toGrows hfirst.free.1
    · exact .inr ⟨b, List.mem_cons_of_mem _ hb, h⟩

/-- Nodes that are new in the arena are below the body that was stored. -/
theorem below_storeBody {a : Arena} (ha : Forest a) {nodes : List Node}
    (hn : Node.ShapedAll nodes) {id : NodeId}
    (hid : id.index < (storeBody nodes a).1.cells.size) :
    id.index < a.cells.size ∨ (storeBody nodes a).1.Below (storeBody nodes a).2 id := by
  have hstored := storeNodes_spec ha hn
  have hunder := @under_storeNodes a ha nodes hn id hid
  have hfree : ∀ i ∈ (storeNodes nodes a).2, FreeNode (storeNodes nodes a).1 i :=
    fun i hi => (hstored.free i hi).1
  obtain ⟨hgrows, -⟩ := Stores.allocBody hstored.forest hfree hstored.nodup
  have hroot : (storeBody nodes a).1.body (storeBody nodes a).2 = (storeNodes nodes a).2 := by
    simp only [storeBody, body_allocBody]
    exact if_pos rfl
  refine hunder.imp_right fun ⟨top, htop, h⟩ => Below.of_under (hroot ▸ htop) ?_
  exact h.grow hstored.forest hgrows (hfree top htop).1

end

end Store

section Part

variable {a : Arena}

/-- A node that is stored as a block was read as one. -/
theorem head_block_of_nodeAt {id : NodeId} {head : Head} {bodies : List (List Node)} {t : Token}
    (hn : NodeAt a id (.tag head bodies t)) {x : String} {b : BodyId}
    (hblock : a.block? id = some (x, b)) : head.block? = some x := by
  obtain ⟨ids, hcell, -⟩ := hn
  rw [block?_of_cell? hcell] at hblock
  simp only [Cell.block?] at hblock
  split at hblock
  · next y _ hy =>
    cases hblock
    exact hy
  · cases hblock

end Part

end Arena

namespace Node

/-- Bodies are shaped if each of them is. -/
theorem shapedInBodies_iff {bodies : List (List Node)} :
    ShapedInBodies bodies ↔ ∀ body ∈ bodies, ShapedAll body := by
  induction bodies with
  | nil => simp [ShapedInBodies]
  | cons body rest ih => simp [ShapedInBodies, ih]

section Holds

variable {nodes : List Node} {n : Node}

/-- A node in shaped nodes is shaped. -/
theorem Holds.shaped (h : Holds nodes n) (hs : ShapedAll nodes) : Shaped n := by
  induction h with
  | here h => exact shapedAll_iff_forall.1 hs _ h
  | @inside n outer body _ hbody h ih =>
    cases outer with
    | literal | output => cases hbody
    | tag => exact shapedAll_iff_forall.1 (shapedInBodies_iff.1 ih.2 body hbody) n h

/-- The blocks of a node that is held are nested in each other where it is held. -/
theorem Holds.nestings_subset (h : Holds nodes n) : nestings n ⊆ nestingsAll nodes := by
  induction h with
  | here h =>
    intro p hp
    rw [nestingsAll_eq_flatMap]
    exact List.mem_flatMap.2 ⟨_, h, hp⟩
  | @inside n outer body _ hbody h ih =>
    cases outer with
    | literal | output => cases hbody
    | tag head bodies t =>
      intro p hp
      apply ih
      simp only [nestings, nestingsInBodies_eq_flatMap]
      refine List.mem_append_right _ (List.mem_flatMap.2 ⟨body, hbody, ?_⟩)
      rw [nestingsAll_eq_flatMap]
      exact List.mem_flatMap.2 ⟨n, h, hp⟩

end Holds

end Node

namespace Template

open Arena

/-- Nodes that are new in the arena are below the roots of the levels that were stored. -/
theorem below_storeLevels {a : Arena} (ha : Forest a) {levels : List (List Node)}
    (hn : ∀ nodes ∈ levels, Node.ShapedAll nodes) {id : NodeId}
    (hid : id.index < (storeLevels levels a).1.cells.size) :
    id.index < a.cells.size ∨
      ∃ root ∈ (storeLevels levels a).2, (storeLevels levels a).1.Below root id := by
  induction levels generalizing a with
  | nil => exact .inl hid
  | cons nodes rest ih =>
    have hnodes := hn nodes (List.mem_cons_self ..)
    have hothers : ∀ nodes ∈ rest, Node.ShapedAll nodes :=
      fun l hl => hn l (List.mem_cons_of_mem _ hl)
    have hfirst := storeBody_spec ha hnodes
    have hrest := storeLevels_spec hfirst.forest hothers
    simp only [storeLevels] at hid ⊢
    rcases ih hfirst.forest hothers hid with hlt | ⟨root, hroot, h⟩
    · refine (below_storeBody ha hnodes hlt).imp_right fun h => ⟨_, List.mem_cons_self .., ?_⟩
      exact h.grow hfirst.forest hrest.toGrows hfirst.free.1
    · exact .inr ⟨root, List.mem_cons_of_mem _ hroot, h⟩

/-- The root of a level holds its nodes and belongs to no node. -/
theorem exists_level_of_mem {a : Arena} {roots : List BodyId} {levels : List (List Node)}
    (h : LevelsAt a roots levels) :
    ∀ r ∈ roots, ∃ level ∈ levels, FreeBody a r ∧ NodesAt a (a.body r) level := by
  induction h with
  | nil => simp
  | @cons _ level _ levels hroot _ ih =>
    refine List.forall_mem_cons.2 ⟨⟨level, List.mem_cons_self .., hroot⟩, ?_⟩
    intro r hr
    obtain ⟨l, hl, h⟩ := ih r hr
    exact ⟨l, List.mem_cons_of_mem _ hl, h⟩

/-- Every stored node belongs to a level. -/
theorem exists_level {levels : List (List Node)} (hn : ∀ nodes ∈ levels, Node.ShapedAll nodes)
    {id : NodeId} (hid : id.index < (storeLevels levels {}).1.cells.size) :
    ∃ root ∈ (storeLevels levels {}).2, (storeLevels levels {}).1.Below root id :=
  (below_storeLevels forest_empty hn hid).resolve_left (Nat.not_lt_zero _)

/-- Every block that is stored is that of a level. -/
theorem exists_level_of_block? {levels : List (List Node)}
    (hn : ∀ nodes ∈ levels, Node.ShapedAll nodes) {id : NodeId} {v : String × BodyId}
    (hblock : (storeLevels levels {}).1.block? id = some v) :
    ∃ root ∈ (storeLevels levels {}).2, (storeLevels levels {}).1.Below root id := by
  refine exists_level hn ?_
  obtain ⟨c, hc, -⟩ := Option.bind_eq_some_iff.1 hblock
  exact lt_of_cell? hc

end Template

end Stencil
