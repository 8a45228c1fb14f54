import Stencil.Proofs.Layout.Levels
import Stencil.Proofs.Node.Rewriting

/-!
# What a layout becomes

Merging the last layout of a chain into contents that hold no blocks rewrites the tree of the layout
(`Merging.mergeNodes_rewrites`).  The walk goes through the layout from the outside in; what it has
not reached yet is as it was stored (`Merging.Ready`), and what it leaves behind is not touched
again, because the layout has every name once (`Merging.Walked`).  With the levels below merged
block by block, a chain whose levels below the last layout nest no blocks becomes the layout
rewritten with the overlays of the blocks of these levels (`Template.resolve_rewrites`).
-/

set_option autoImplicit false

namespace Stencil

namespace Merging

open Arena

/-- Nodes that hold trees without blocks, at most `d` bodies deep. -/
structure Supplied (a : Arena) (d : Nat) (ids : List NodeId) (nodes : List Node) : Prop where
  nodesAt : NodesAt a ids nodes
  names : Node.namesAll nodes = []
  height : Node.heightAll nodes ≤ d

/-- Some blocks that are still to be merged, with the contents that override them. -/
structure Ready (a : Arena) (contents : String → Option (List Node)) (d : Nat) (m : Merging)
    (vs : List (String × BodyId)) : Prop where
  merging : Over a m
  pristine : ∀ v ∈ vs, m.arena.body v.2 = a.body v.2
  content : ∀ v ∈ vs, Option.Rel (Supplied a d) (m.content? v.1) (contents v.1)
  apart : ∀ v ∈ vs, ∀ c, m.content? v.1 = some c → ∀ id ∈ c, id ∉ a.body v.2

/-- What merging some blocks leaves alone: everything under other names. -/
structure Walked (a : Arena) (m m' : Merging) (vs : List (String × BodyId)) : Prop where
  isOver : Over a m'
  content : ∀ {y}, y ∉ vs.map Prod.fst → m'.content? y = m.content? y
  body : ∀ {y b}, y ∉ vs.map Prod.fst → Owns a y b → m'.arena.body b = m.arena.body b

section Walk

variable {a : Arena} {m m₁ m₂ : Merging} {us vs : List (String × BodyId)}

/-- Merging no blocks leaves everything alone. -/
theorem Walked.refl (hm : Over a m) : Walked a m m vs :=
  ⟨hm, fun _ => rfl, fun _ _ => rfl⟩

/-- Merging blocks in two parts leaves alone what both parts do. -/
theorem Walked.append (h₁ : Walked a m m₁ us) (h₂ : Walked a m₁ m₂ vs) :
    Walked a m m₂ (us ++ vs) := by
  refine ⟨h₂.isOver, ?_, ?_⟩
  · intro y hy
    simp only [List.map_append, List.mem_append, not_or] at hy
    rw [h₂.content hy.2, h₁.content hy.1]
  · intro y b hy hb
    simp only [List.map_append, List.mem_append, not_or] at hy
    rw [h₂.body hy.2 hb, h₁.body hy.1 hb]

/-- Blocks of other names are still ready when some were merged. -/
theorem Ready.walked {contents : String → Option (List Node)} {d : Nat}
    (h : Ready a contents d m vs)
    (hw : Walked a m m₁ us) (howns : ∀ v ∈ vs, Owns a v.1 v.2)
    (hnames : ∀ v ∈ vs, v.1 ∉ us.map Prod.fst) : Ready a contents d m₁ vs := by
  refine ⟨hw.isOver, ?_, ?_, ?_⟩
  · intro v hv
    rw [hw.body (hnames v hv) (howns v hv), h.pristine v hv]
  · intro v hv
    rw [hw.content (hnames v hv)]
    exact h.content v hv
  · intro v hv
    rw [hw.content (hnames v hv)]
    exact h.apart v hv

/-- Fewer of the blocks are ready, too. -/
theorem Ready.mono {contents : String → Option (List Node)} {d : Nat} (h : Ready a contents d m vs)
    (hsub : ∀ u ∈ us, u ∈ vs) : Ready a contents d m us :=
  ⟨h.merging, fun v hv => h.pristine v (hsub v hv), fun v hv => h.content v (hsub v hv),
    fun v hv => h.apart v (hsub v hv)⟩

/-- Merging a block leaves everything under other names alone. -/
theorem Settled.walked (ha : Forest a) (hm : Over a m) {x : String} {own : BodyId}
    (hown : Owns a x own) (h : Settled a m m₁ x own) : Walked a m m₁ [(x, own)] := by
  refine ⟨h.isOver, ?_, ?_⟩
  · intro y hy
    exact h.content_of_ne ha hm hown (by simpa using hy)
  · intro y b hy hb
    exact h.body_of_ne ha hm hown (by simpa using hy) hb

end Walk

section Congr

variable {a : Arena} {m m' : Merging}

mutual

/-- A tree is still there when nothing under the names of its blocks was touched. -/
theorem nodeAt_congr (ha : Forest a) (hm : Over a m) (hm' : Over a m') {id : NodeId} {n : Node}
    (hsame : ∀ x ∈ Node.names n, ∀ b, Owns a x b → m'.arena.body b = m.arena.body b)
    (hn : NodeAt m.arena id n) : NodeAt m'.arena id n := by
  cases n with
  | literal t =>
    simp only [NodeAt, hm.cell?, hm'.cell?] at hn ⊢
    exact hn
  | output o t =>
    simp only [NodeAt, hm.cell?, hm'.cell?] at hn ⊢
    exact hn
  | tag head bodies t =>
    simp only [NodeAt, hm.cell?, hm'.cell?] at hn ⊢
    obtain ⟨ids, hcell, hbodies⟩ := hn
    simp only [Node.names, List.mem_append, Option.mem_toList] at hsame
    refine ⟨ids, hcell,
      bodiesAt_congr ha hm hm' (fun b hb => ?_) (fun x hx => hsame x (.inr hx)) hbodies⟩
    have hchild : b ∈ a.children id := by rwa [children_of_cell? hcell]
    cases hblock : a.block? id with
    | none =>
      have hplain := ha.not_owns_of_mem_children hchild hblock
      rw [hm.plain hplain, hm'.plain hplain]
    | some v =>
      obtain ⟨x, own⟩ := v
      rw [ha.single hblock, List.mem_singleton] at hchild
      subst hchild
      refine hsame x (.inl ?_) b ⟨id, hblock⟩
      rw [block?_of_cell? hcell] at hblock
      simp only [Cell.block?] at hblock
      split at hblock
      · next y _ hy =>
        simp only [Option.some.injEq, Prod.mk.injEq] at hblock
        rw [hy, hblock.1]
      · cases hblock

/-- Nodes are stored in two states alike if the bodies of their blocks are the same. -/
theorem nodesAt_congr (ha : Forest a) (hm : Over a m) (hm' : Over a m') {ids : List NodeId}
    {nodes : List Node}
    (hsame : ∀ x ∈ Node.namesAll nodes, ∀ b, Owns a x b → m'.arena.body b = m.arena.body b)
    (hn : NodesAt m.arena ids nodes) : NodesAt m'.arena ids nodes := by
  cases nodes with
  | nil => simpa using hn
  | cons n rest =>
    simp only [NodesAt] at hn ⊢
    obtain ⟨id, others, rfl, hn, hrest⟩ := hn
    simp only [Node.namesAll, List.mem_append] at hsame
    exact ⟨id, others, rfl, nodeAt_congr ha hm hm' (fun x hx => hsame x (.inl hx)) hn,
      nodesAt_congr ha hm hm' (fun x hx => hsame x (.inr hx)) hrest⟩

/-- Bodies are stored in two states alike if they and those of their blocks are the same. -/
theorem bodiesAt_congr (ha : Forest a) (hm : Over a m) (hm' : Over a m') {ids : List BodyId}
    {bodies : List (List Node)} (hids : ∀ b ∈ ids, m'.arena.body b = m.arena.body b)
    (hsame : ∀ x ∈ Node.namesInBodies bodies, ∀ b, Owns a x b → m'.arena.body b = m.arena.body b)
    (hn : BodiesAt m.arena ids bodies) : BodiesAt m'.arena ids bodies := by
  cases bodies with
  | nil => simpa using hn
  | cons body rest =>
    simp only [BodiesAt] at hn ⊢
    obtain ⟨b, others, rfl, hbody, hrest⟩ := hn
    simp only [Node.namesInBodies, List.mem_append] at hsame
    refine ⟨b, others, rfl, ?_,
      bodiesAt_congr ha hm hm' (fun b hb => hids b (List.mem_cons_of_mem _ hb))
        (fun x hx => hsame x (.inr hx)) hrest⟩
    rw [hids b (List.mem_cons_self ..)]
    exact nodesAt_congr ha hm hm' (fun x hx => hsame x (.inl hx)) hbody

end

end Congr

section Splice

variable {a : Arena}

/-- A stored node is a mark just if the node is one. -/
theorem isBlockSuper_of_nodeAt {id : NodeId} {n : Node} (hn : NodeAt a id n) :
    a.isBlockSuper id = Node.isBlockSuper n := by
  unfold Arena.isBlockSuper
  cases n with
  | literal t =>
    rw [show a.cell? id = some (.literal t) from hn]
    rfl
  | output o t =>
    rw [show a.cell? id = some (.output o t) from hn]
    rfl
  | tag head bodies t =>
    obtain ⟨ids, hcell, -⟩ := hn
    rw [hcell]
    rfl

/-- Stored nodes may be put together. -/
theorem nodesAt_append {ids₁ ids₂ : List NodeId} {nodes₁ nodes₂ : List Node}
    (h₁ : NodesAt a ids₁ nodes₁) (h₂ : NodesAt a ids₂ nodes₂) :
    NodesAt a (ids₁ ++ ids₂) (nodes₁ ++ nodes₂) := by
  induction nodes₁ generalizing ids₁ with
  | nil =>
    rw [(nodesAt_nil a ids₁).1 h₁]
    exact h₂
  | cons n rest ih =>
    simp only [NodesAt] at h₁
    obtain ⟨id, others, rfl, hn, hrest⟩ := h₁
    exact (nodesAt_cons ..).2 ⟨hn, ih hrest⟩

/-- Replacing the first mark among stored nodes is replacing it among the nodes. -/
theorem nodesAt_substFirst {kids content : List NodeId} {kids' content' : List Node}
    (hkids : NodesAt a kids kids') (hcontent : NodesAt a content content') :
    NodesAt a (substFirst a.isBlockSuper kids content)
      (substFirst Node.isBlockSuper kids' content') := by
  induction content' generalizing content with
  | nil =>
    rw [(nodesAt_nil a content).1 hcontent]
    exact (nodesAt_nil a []).2 rfl
  | cons n rest ih =>
    simp only [NodesAt] at hcontent
    obtain ⟨id, others, rfl, hn, hrest⟩ := hcontent
    simp only [substFirst, isBlockSuper_of_nodeAt hn]
    split
    · exact nodesAt_append hkids hrest
    · exact (nodesAt_cons ..).2 ⟨hn, ih hrest⟩

/-- There is a mark among stored nodes just if there is one among the nodes. -/
theorem any_isBlockSuper_of_nodesAt {ids : List NodeId} {nodes : List Node}
    (hn : NodesAt a ids nodes) : ids.any a.isBlockSuper = nodes.any Node.isBlockSuper := by
  induction nodes generalizing ids with
  | nil =>
    rw [(nodesAt_nil a ids).1 hn]
    rfl
  | cons n rest ih =>
    simp only [NodesAt] at hn
    obtain ⟨id, others, rfl, hn, hrest⟩ := hn
    simp only [List.any_cons, isBlockSuper_of_nodeAt hn, ih hrest]

/-- A walk over inert nodes does what it does at the place of the mark. -/
theorem mergeNodes_substFirst (ha : Forest a) {m m' : Merging} (hm : Over a m) (hm' : Over a m')
    {d k : Nat} (hk : d ≤ k) {kids content : List NodeId} (hc : ∀ id ∈ content, Inert a d id)
    (hany : content.any a.isBlockSuper = true) (hkids : kids.foldlM (mergeNode k) m = some m') :
    (substFirst a.isBlockSuper kids content).foldlM (mergeNode k) m = some m' := by
  induction content with
  | nil => simp at hany
  | cons id rest ih =>
    have hrest : ∀ i ∈ rest, Inert a d i := fun i hi => hc i (List.mem_cons_of_mem _ hi)
    simp only [substFirst]
    by_cases hmark : a.isBlockSuper id = true
    · rw [if_pos hmark, List.foldlM_append, hkids]
      exact mergeNodes_inert ha hm' hk hrest
    · obtain ⟨n, hn, hnames, hheight⟩ := hc id (List.mem_cons_self ..)
      have hfirst := mergeNode_of_no_names ha hm hn hnames (Nat.le_trans hheight hk)
      rw [if_neg hmark, List.foldlM_cons, hfirst]
      exact ih hrest (by simpa [hmark] using hany)

end Splice

section Override

variable {a : Arena} {contents : String → Option (List Node)} {d : Nat}

/-- A content that shares no node with a block takes the nodes of the block in at its first mark. -/
theorem blend_of_apart {isMark : NodeId → Bool} {kids content : List NodeId}
    (h : ∀ id ∈ content, id ∉ kids) :
    blend isMark kids (some content) = substFirst isMark kids content := by
  simp only [blend]
  split
  · next heq =>
    cases content with
    | nil => rfl
    | cons id rest => exact absurd (heq ▸ List.mem_cons_self ..) (h id (List.mem_cons_self ..))
  · rfl

/-- Merging a block merges its nodes behind it. -/
theorem mergeNode_of_block {m : Merging} (hm : Over a m) {id : NodeId} {x : String} {b : BodyId}
    (hblock : a.block? id = some (x, b)) (k : Nat) :
    mergeNode (k + 1) m id =
      ((m.settle x b).arena.body b).foldlM (mergeNode k) (m.settle x b) := by
  unfold mergeNode
  rw [hm.block?, hblock]
  rfl

/-- A tag has no more blocks in it with another body that has none but those of its own body. -/
theorem mem_names_of_body {head : Head} {t : Token} {body body' : List Node}
    (h : ∀ y ∈ Node.namesAll body', y ∈ Node.namesAll body) :
    ∀ y ∈ Node.names (.tag head [body'] t), y ∈ Node.names (.tag head [body] t) := by
  simp only [Node.names, Node.namesInBodies, List.append_nil, List.mem_append]
  exact fun y hy => hy.imp_right (h y)

/-- Further blocks are still ready when a block of another name was merged. -/
theorem Ready.tail {m : Merging} {x : String} {b : BodyId} {inner : List (String × BodyId)}
    (hr : Ready a contents d m ((x, b) :: inner)) (hw : Walked a m (m.settle x b) [(x, b)])
    (howns : ∀ v ∈ inner, Owns a v.1 v.2) (hfresh : x ∉ inner.map Prod.fst) :
    Ready a contents d (m.settle x b) inner := by
  refine (hr.mono fun v hv => List.mem_cons_of_mem _ hv).walked hw howns fun v hv => ?_
  rw [List.map_cons, List.map_nil, List.mem_singleton]
  intro e
  have hmem := List.mem_map_of_mem (f := Prod.fst) hv
  rw [show v.1 = x from e] at hmem
  exact hfresh hmem

/-- Merging a block of the layout: the content that overrides it becomes its body, or its own body
stays, and the walk goes on inside. -/
theorem mergeBlock_rewrites (ha : Forest a) {m : Merging} {id : NodeId} {head : Head} {b : BodyId}
    {t : Token} {x : String} {body : List Node} {inner : List (String × BodyId)} {k : Nat}
    (hk : d ≤ k) (hcell : a.cell? id = some (.tag head [b] t)) (hx : head.block? = some x)
    (hfresh : x ∉ inner.map Prod.fst) (howns : ∀ v ∈ inner, Owns a v.1 v.2)
    (hr : Ready a contents d m ((x, b) :: inner))
    (ih : ∀ m₁, Ready a contents d m₁ inner → ∃ m', (a.body b).foldlM (mergeNode k) m₁ = some m' ∧
      Walked a m₁ m' inner ∧ ∃ body', NodesAt m'.arena (a.body b) body' ∧
        Node.Rewrites contents body body' ∧ (∀ y ∈ Node.namesAll body', y ∈ Node.namesAll body) ∧
        Node.heightAll body' ≤ Node.heightAll body + d) :
    ∃ m', mergeNode (k + 1) m id = some m' ∧ Walked a m m' ((x, b) :: inner) ∧
      ∃ n', NodeAt m'.arena id n' ∧ Node.RewritesNode contents (.tag head [body] t) n' ∧
        (∀ y ∈ Node.names n', y ∈ Node.names (.tag head [body] t)) ∧
        Node.height n' ≤ Node.heightAll body + 1 + d := by
  have hblock : a.block? id = some (x, b) := by simp [block?_of_cell? hcell, Cell.block?, hx]
  have hown : Owns a x b := ⟨id, hblock⟩
  have hm := hr.merging
  have hstep := settle_spec ha hm hown
  have hwalked := hstep.walked ha hm hown
  have hpristine : m.arena.body b = a.body b := hr.pristine (x, b) (List.mem_cons_self ..)
  have hinner : Ready a contents d (m.settle x b) inner := hr.tail hwalked howns hfresh
  -- whatever the walk does inside, the block is put together from its cell and its new body
  have assemble {m' : Merging} {body' : List Node} (hw : Walked a (m.settle x b) m' inner)
      (hbody' : NodesAt m'.arena ((m.settle x b).arena.body b) body') :
      Walked a m m' ((x, b) :: inner) ∧ NodeAt m'.arena id (.tag head [body'] t) := by
    refine ⟨hwalked.append hw, [b], by rw [hw.isOver.cell?, hcell], ?_⟩
    rw [bodiesAt_cons, bodiesAt_nil, hw.body hfresh hown]
    exact ⟨hbody', rfl⟩
  have hmerge := mergeNode_of_block hm hblock k
  have hnew := Option.some.inj (hstep.own_eq.symm.trans hstep.content_eq)
  rw [hpristine] at hnew
  obtain ⟨m', hwalk, hw, body', hbody', hrewrites, hnames, hheight⟩ := ih _ hinner
  have hcontent := hr.content (x, b) (List.mem_cons_self ..)
  generalize hover : contents x = o at hcontent
  generalize hfind : m.content? x = c at hcontent hnew
  cases hcontent with
  | none =>
    simp only [blend] at hnew
    rw [hmerge, hnew]
    rw [hnew] at assemble
    obtain ⟨hw', hn'⟩ := assemble hw hbody'
    refine ⟨m', hwalk, hw', _, hn', ?_, mem_names_of_body hnames, ?_⟩
    · refine .kept (fun y hy => ?_) (.cons hrewrites .nil)
      rw [hx] at hy
      cases hy
      exact hover
    · simp only [Node.height, Node.heightInBodies]
      omega
  | @some content content' hsupplied =>
    have hinert := inert_of_no_names hsupplied.nodesAt hsupplied.names hsupplied.height
    -- the content and the body of the block have no node in common
    have hapart := hr.apart (x, b) (List.mem_cons_self ..) content hfind
    have hsubst : (m.settle x b).arena.body b = substFirst a.isBlockSuper (a.body b) content :=
      hnew.trans (blend_of_apart hapart)
    have hstored {m'' : Merging} (hm'' : Over a m'') : NodesAt m''.arena content content' :=
      nodesAt_congr ha (Over.start a) hm'' (by simp [hsupplied.names]) hsupplied.nodesAt
    rw [hmerge, hsubst]
    rw [hsubst] at assemble
    have hrewritten := hrewrites.substFirst hsupplied.names
    by_cases hany : content.any a.isBlockSuper = true
    · have hat : NodesAt m'.arena (substFirst a.isBlockSuper (a.body b) content)
          (substFirst Node.isBlockSuper body' content') := by
        rw [← hw.isOver.isBlockSuper]
        exact nodesAt_substFirst hbody' (hstored hw.isOver)
      obtain ⟨hw', hn'⟩ := assemble hw hat
      have hspliced := mergeNodes_substFirst ha hstep.isOver hw.isOver hk hinert hany hwalk
      refine ⟨m', hspliced, hw', _, hn', .overridden hx hover hrewritten, ?_, ?_⟩
      · refine mem_names_of_body fun y hy => ?_
        have hy := Node.mem_namesAll_substFirst hy
        rw [hsupplied.names] at hy
        exact hnames y (hy.resolve_left List.not_mem_nil)
      · have hle := Node.heightAll_substFirst_le body' content'
        have hcontent := hsupplied.height
        simp only [Node.height, Node.heightInBodies]
        omega
    · -- without a mark the walk does not reach the body that the block had
      have hfree : ∀ i ∈ content, a.isBlockSuper i = false := by
        simpa using hany
      have hfree' : ∀ n ∈ content', Node.isBlockSuper n = false := by
        rw [any_isBlockSuper_of_nodesAt hsupplied.nodesAt] at hany
        simpa using hany
      rw [substFirst_of_forall hfree] at assemble ⊢
      obtain ⟨hw', hn'⟩ := assemble (Walked.refl hstep.isOver) (hstored hstep.isOver)
      have hkeep : substFirst Node.isBlockSuper body' content' = content' :=
        substFirst_of_forall hfree'
      rw [hkeep] at hrewritten
      refine ⟨m.settle x b, mergeNodes_inert ha hstep.isOver hk hinert, hw', _, hn',
        .overridden hx hover hrewritten, ?_, ?_⟩
      · refine mem_names_of_body fun y hy => ?_
        rw [hsupplied.names] at hy
        exact absurd hy List.not_mem_nil
      · have hcontent := hsupplied.height
        simp only [Node.height, Node.heightInBodies]
        omega

mutual

/-- Merging a node of the layout rewrites its tree. -/
theorem mergeNode_rewrites (ha : Forest a) {m : Merging} {id : NodeId} {n : Node} {k : Nat}
    (hn : NodeAt a id n) (hs : Node.Shaped n) (hnodup : (Node.names n).Nodup)
    (hr : Ready a contents d m (blocksAt a id n)) (hk : Node.height n + d ≤ k) :
    ∃ m', mergeNode k m id = some m' ∧ Walked a m m' (blocksAt a id n) ∧
      ∃ n', NodeAt m'.arena id n' ∧ Node.RewritesNode contents n n' ∧
        (∀ y ∈ Node.names n', y ∈ Node.names n) ∧ Node.height n' ≤ Node.height n + d := by
  cases n with
  | literal t =>
    have hsame := nodeAt_congr ha (Over.start a) hr.merging (by simp [Node.names]) hn
    exact ⟨m, mergeNode_of_no_names ha hr.merging hn rfl (Nat.zero_le _), .refl hr.merging, _,
      hsame, .literal t, fun _ h => h, Nat.le_add_right ..⟩
  | output o t =>
    have hsame := nodeAt_congr ha (Over.start a) hr.merging (by simp [Node.names]) hn
    exact ⟨m, mergeNode_of_no_names ha hr.merging hn rfl (Nat.zero_le _), .refl hr.merging, _,
      hsame, .output o t, fun _ h => h, Nat.le_add_right ..⟩
  | tag head bodies t =>
    obtain ⟨ids, hcell, hbodies⟩ := hn
    have hblock : a.block? id = (Cell.tag head ids t).block? := block?_of_cell? hcell
    cases hhead : head.block? with
    | none =>
      have hnone : a.block? id = none := by simp [hblock, Cell.block?, hhead]
      have hlist : blocksAt a id (.tag head bodies t) = blocksAtBodies a ids bodies := by
        simp [blocksAt, hnone, children_of_cell? hcell, Cell.bodies]
      simp only [Node.names, hhead, Option.toList_none, List.nil_append] at hnodup ⊢
      rw [hlist] at hr ⊢
      have hplain : ∀ b ∈ ids, ∀ x, ¬ Owns a x b := fun b hb =>
        ha.not_owns_of_mem_children (by rwa [children_of_cell? hcell]) hnone
      obtain ⟨m', hwalk, hw, bodies', hbodies', hrewrites, hnames, hheight⟩ :=
        mergeBodies_rewrites ha hbodies hs.2 hnodup hplain hr hk
      refine ⟨m', ?_, hw, .tag head bodies' t, ?_, .kept (by simp [hhead]) hrewrites, ?_, hheight⟩
      · unfold mergeNode
        rw [hr.merging.block?, hr.merging.children, hnone, children_of_cell? hcell]
        exact hwalk
      · exact ⟨ids, by rw [hw.isOver.cell?, hcell], hbodies'⟩
      · simpa only [Node.names, hhead, Option.toList_none, List.nil_append] using hnames
    | some x =>
      obtain ⟨body, b, rfl, rfl, hbody, hcellblock⟩ :=
        exists_of_head_block (t := t) hs.1 hbodies hhead
      have hsome : a.block? id = some (x, b) := hblock.trans hcellblock
      have hlist : blocksAt a id (.tag head [body] t) =
          (x, b) :: blocksAtAll a (a.body b) body := by
        simp [blocksAt, hsome, children_of_cell? hcell, Cell.bodies, blocksAtBodies]
      simp only [Node.names, hhead, Option.toList_some, List.cons_append, List.nil_append,
        Node.namesInBodies, List.append_nil, List.nodup_cons] at hnodup
      simp only [Node.height, Node.heightInBodies, Nat.max_zero] at hk ⊢
      obtain ⟨k, rfl⟩ : ∃ j, k = j + 1 := ⟨k - 1, by omega⟩
      rw [hlist] at hr ⊢
      refine mergeBlock_rewrites ha (by omega) hcell hhead ?_
        (fun v hv => owns_of_mem_blocksAtAll hv) hr fun m₁ hr₁ => ?_
      · rw [map_fst_blocksAtAll hs.2.1 hbody]
        exact hnodup.1
      · exact mergeNodes_rewrites ha hbody hs.2.1 hnodup.2 hr₁ (by omega)

/-- Merging nodes with ready blocks rewrites them from the top down, by induction on the nodes. -/
theorem mergeNodes_rewrites (ha : Forest a) {m : Merging} {ids : List NodeId} {nodes : List Node}
    {k : Nat} (hn : NodesAt a ids nodes) (hs : Node.ShapedAll nodes)
    (hnodup : (Node.namesAll nodes).Nodup) (hr : Ready a contents d m (blocksAtAll a ids nodes))
    (hk : Node.heightAll nodes + d ≤ k) :
    ∃ m', ids.foldlM (mergeNode k) m = some m' ∧ Walked a m m' (blocksAtAll a ids nodes) ∧
      ∃ nodes', NodesAt m'.arena ids nodes' ∧ Node.Rewrites contents nodes nodes' ∧
        (∀ y ∈ Node.namesAll nodes', y ∈ Node.namesAll nodes) ∧
        Node.heightAll nodes' ≤ Node.heightAll nodes + d := by
  cases nodes with
  | nil =>
    rw [(nodesAt_nil a ids).1 hn]
    exact ⟨m, rfl, .refl hr.merging, [], by simp, .nil, fun _ h => h, Nat.le_add_right ..⟩
  | cons n rest =>
    simp only [NodesAt] at hn
    obtain ⟨id, others, rfl, hn, hrest⟩ := hn
    simp only [Node.namesAll] at hnodup
    simp only [Node.heightAll] at hk
    simp only [blocksAtAll] at hr ⊢
    obtain ⟨hnodup₁, hnodup₂, hapart⟩ := List.nodup_append.1 hnodup
    obtain ⟨m₁, hfirst, hw₁, n', hn', hrewrites₁, hnames₁, hheight₁⟩ :=
      mergeNode_rewrites ha hn hs.1 hnodup₁ (hr.mono fun v hv => List.mem_append_left _ hv)
        (by omega : _ ≤ k)
    have hr₁ : Ready a contents d m₁ (blocksAtAll a others rest) := by
      refine (hr.mono fun v hv => List.mem_append_right _ hv).walked hw₁
        (fun v hv => owns_of_mem_blocksAtAll hv) fun v hv => ?_
      rw [map_fst_blocksAt hs.1 hn]
      have hmem := List.mem_map_of_mem (f := Prod.fst) hv
      rw [map_fst_blocksAtAll hs.2 hrest] at hmem
      exact fun h => hapart _ h _ hmem rfl
    obtain ⟨m₂, hothers, hw₂, rest', hrest', hrewrites₂, hnames₂, hheight₂⟩ :=
      mergeNodes_rewrites ha hrest hs.2 hnodup₂ hr₁ (by omega : _ ≤ k)
    refine ⟨m₂, ?_, hw₁.append hw₂, n' :: rest', ?_, .cons hrewrites₁ hrewrites₂, ?_, ?_⟩
    · rw [List.foldlM_cons, hfirst]
      exact hothers
    · -- the rest of the walk is under other names
      refine (nodesAt_cons ..).2 ⟨?_, hrest'⟩
      refine nodeAt_congr ha hw₁.isOver hw₂.isOver (fun x hx b hb => ?_) hn'
      refine hw₂.body (fun hmem => ?_) hb
      rw [map_fst_blocksAtAll hs.2 hrest] at hmem
      exact hapart _ (hnames₁ x hx) _ hmem rfl
    · simp only [Node.namesAll, List.mem_append]
      exact fun y hy => hy.imp (hnames₁ y) (hnames₂ y)
    · simp only [Node.heightAll]
      omega

/-- Merging bodies with ready blocks rewrites them from the top down, by induction on the bodies. -/
theorem mergeBodies_rewrites (ha : Forest a) {m : Merging} {ids : List BodyId}
    {bodies : List (List Node)} {k : Nat} (hn : BodiesAt a ids bodies)
    (hs : Node.ShapedInBodies bodies) (hnodup : (Node.namesInBodies bodies).Nodup)
    (hplain : ∀ b ∈ ids, ∀ x, ¬ Owns a x b)
    (hr : Ready a contents d m (blocksAtBodies a ids bodies))
    (hk : Node.heightInBodies bodies + d ≤ k) :
    ∃ m', ids.foldlM (fun m b => mergeIn k b m) m = some m' ∧
      Walked a m m' (blocksAtBodies a ids bodies) ∧
      ∃ bodies', BodiesAt m'.arena ids bodies' ∧ Node.RewritesBodies contents bodies bodies' ∧
        (∀ y ∈ Node.namesInBodies bodies', y ∈ Node.namesInBodies bodies) ∧
        Node.heightInBodies bodies' ≤ Node.heightInBodies bodies + d := by
  cases bodies with
  | nil =>
    rw [(bodiesAt_nil a ids).1 hn]
    exact ⟨m, rfl, .refl hr.merging, [], by simp, .nil, fun _ h => h, Nat.le_add_right ..⟩
  | cons body rest =>
    simp only [BodiesAt] at hn
    obtain ⟨b, others, rfl, hbody, hrest⟩ := hn
    simp only [Node.namesInBodies] at hnodup
    simp only [Node.heightInBodies] at hk
    simp only [blocksAtBodies] at hr ⊢
    obtain ⟨k, rfl⟩ : ∃ j, k = j + 1 := ⟨k - 1, by omega⟩
    obtain ⟨hnodup₁, hnodup₂, hapart⟩ := List.nodup_append.1 hnodup
    have hb := hplain b (List.mem_cons_self ..)
    obtain ⟨m₁, hfirst, hw₁, body', hbody', hrewrites₁, hnames₁, hheight₁⟩ :=
      mergeNodes_rewrites ha hbody hs.1 hnodup₁ (hr.mono fun v hv => List.mem_append_left _ hv)
        (by omega : _ ≤ k)
    have hr₁ : Ready a contents d m₁ (blocksAtBodies a others rest) := by
      refine (hr.mono fun v hv => List.mem_append_right _ hv).walked hw₁
        (fun v hv => owns_of_mem_blocksAtBodies hv) fun v hv => ?_
      rw [map_fst_blocksAtAll hs.1 hbody]
      have hmem := List.mem_map_of_mem (f := Prod.fst) hv
      rw [map_fst_blocksAtBodies hs.2 hrest] at hmem
      exact fun h => hapart _ h _ hmem rfl
    obtain ⟨m₂, hothers, hw₂, rest', hrest', hrewrites₂, hnames₂, hheight₂⟩ :=
      mergeBodies_rewrites ha hrest hs.2 hnodup₂ (fun b hb => hplain b (List.mem_cons_of_mem _ hb))
        hr₁ (by omega : _ ≤ k + 1)
    refine ⟨m₂, ?_, hw₁.append hw₂, body' :: rest', ?_, .cons hrewrites₁ hrewrites₂, ?_, ?_⟩
    · rw [List.foldlM_cons, mergeIn_succ, hr.merging.plain hb, hfirst]
      exact hothers
    · refine (bodiesAt_cons ..).2 ⟨?_, hrest'⟩
      rw [hw₂.isOver.plain hb]
      refine nodesAt_congr ha hw₁.isOver hw₂.isOver (fun x hx b hb => ?_) hbody'
      refine hw₂.body (fun hmem => ?_) hb
      rw [map_fst_blocksAtBodies hs.2 hrest] at hmem
      exact hapart _ (hnames₁ x hx) _ hmem rfl
    · simp only [Node.namesInBodies, List.mem_append]
      exact fun y hy => hy.imp (hnames₁ y) (hnames₂ y)
    · simp only [Node.heightInBodies]
      omega

end

end Override

section Overlay

variable {a : Arena} {d : Nat}

/-- Replacing the first mark keeps nodes without blocks. -/
theorem Supplied.substFirst {kids content : List NodeId} {kids' content' : List Node}
    (hkids : Supplied a d kids kids') (hcontent : Supplied a d content content') :
    Supplied a d (substFirst a.isBlockSuper kids content)
      (Stencil.substFirst Node.isBlockSuper kids' content') := by
  refine ⟨nodesAt_substFirst hkids.nodesAt hcontent.nodesAt, ?_, ?_⟩
  · rw [List.eq_nil_iff_forall_not_mem]
    intro x hx
    rcases Node.mem_namesAll_substFirst hx with hx | hx
    · rw [hcontent.names] at hx
      exact absurd hx List.not_mem_nil
    · rw [hkids.names] at hx
      exact absurd hx List.not_mem_nil
  · have hle := Node.heightAll_substFirst_le kids' content'
    have hk := hkids.height
    have hc := hcontent.height
    omega

/-- Contents without blocks have none when they are laid over each other. -/
theorem foldl_supplied {rest : List (List NodeId)} {rest' : List (List Node)}
    (hrest : List.Forall₂ (Supplied a d) rest rest') {content : List NodeId} {content' : List Node}
    (hcontent : Supplied a d content content') :
    Supplied a d (rest.foldl (fun c b => Stencil.substFirst a.isBlockSuper b c) content)
      (rest'.foldl (fun c b => Stencil.substFirst Node.isBlockSuper b c) content') := by
  induction hrest generalizing content content' with
  | nil => exact hcontent
  | cons hb _ ih => exact ih (hb.substFirst hcontent)

/-- What is laid over each other in an arena is what the trees laid over each other are. -/
theorem overlay_supplied {bodies : List (List NodeId)} {bodies' : List (List Node)}
    (h : List.Forall₂ (Supplied a d) bodies bodies') :
    Option.Rel (Supplied a d) (overlay a.isBlockSuper bodies)
      (overlay Node.isBlockSuper bodies') := by
  cases h with
  | nil => exact .none
  | cons hfirst hrest => exact .some (foldl_supplied hrest hfirst)

/-- The bodies of a name in two lists of blocks are those in the first, then those in the second. -/
theorem bodiesOf_append (x : String) (us vs : List (String × BodyId)) :
    bodiesOf a x (us ++ vs) = bodiesOf a x us ++ bodiesOf a x vs := by
  simp only [bodiesOf, List.filter_append, List.map_append]

mutual

/-- The bodies that a level without nested blocks has for a name hold the trees that it lists. -/
theorem supplied_blocksAt {id : NodeId} {n : Node} (hn : NodeAt a id n) (hs : Node.Shaped n)
    (hflat : Node.nestings n = []) (hd : Node.innerHeight n ≤ d) (x : String) :
    List.Forall₂ (Supplied a d) (bodiesOf a x (blocksAt a id n)) (Node.blockBodies x n) := by
  cases n with
  | literal t => exact .nil
  | output o t => exact .nil
  | tag head bodies t =>
    obtain ⟨ids, hcell, hbodies⟩ := hn
    have hblock : a.block? id = (Cell.tag head ids t).block? := block?_of_cell? hcell
    simp only [Node.nestings, List.append_eq_nil_iff] at hflat
    cases hhead : head.block? with
    | none =>
      have hnone : a.block? id = none := by simp [hblock, Cell.block?, hhead]
      simp only [Node.innerHeight, hhead, Option.isSome_none, Bool.false_eq_true, if_false] at hd
      have hinner := supplied_blocksAtBodies hbodies hs.2 hflat.2 hd x
      simpa [blocksAt, hnone, children_of_cell? hcell, Cell.bodies, Node.blockBodies, hhead]
        using hinner
    | some y =>
      obtain ⟨body, b, rfl, rfl, hbody, hcellblock⟩ :=
        exists_of_head_block (t := t) hs.1 hbodies hhead
      have hsome : a.block? id = some (y, b) := hblock.trans hcellblock
      have hnames : Node.namesInBodies [body] = [] := by simpa [hhead] using hflat.1
      have hlist : blocksAt a id (.tag head [body] t) = [(y, b)] := by
        have hinner := blocksAtBodies_of_no_names hs.2 hbodies hnames
        simp [blocksAt, hsome, children_of_cell? hcell, Cell.bodies, hinner]
      have hinner := Node.blockBodiesInBodies_of_no_names hnames x
      simp only [Node.namesInBodies, List.append_nil] at hnames
      simp only [Node.innerHeight, hhead, Option.isSome_some, if_true, Node.heightInBodies] at hd
      rw [hlist]
      simp only [Node.blockBodies, hinner, List.append_nil, hhead, Option.some.injEq]
      by_cases hy : y = x
      · simp only [bodiesOf, hy, decide_true, List.filter_cons_of_pos, List.filter_nil,
          List.map_cons, List.map_nil, if_true, List.head?_cons, Option.toList_some]
        exact .cons ⟨hbody, hnames, by omega⟩ .nil
      · simp [bodiesOf, hy]

/-- The bodies of the blocks of nodes are stored as the trees have them. -/
theorem supplied_blocksAtAll {ids : List NodeId} {nodes : List Node} (hn : NodesAt a ids nodes)
    (hs : Node.ShapedAll nodes) (hflat : Node.nestingsAll nodes = [])
    (hd : Node.innerHeightAll nodes ≤ d) (x : String) :
    List.Forall₂ (Supplied a d) (bodiesOf a x (blocksAtAll a ids nodes))
      (Node.blockBodiesAll x nodes) := by
  cases nodes with
  | nil => simp [blocksAtAll, bodiesOf, Node.blockBodiesAll]
  | cons n rest =>
    simp only [NodesAt] at hn
    obtain ⟨id, others, rfl, hn, hrest⟩ := hn
    simp only [Node.nestingsAll, List.append_eq_nil_iff] at hflat
    simp only [Node.innerHeightAll] at hd
    simp only [blocksAtAll, bodiesOf_append, Node.blockBodiesAll]
    exact List.rel_append (supplied_blocksAt hn hs.1 hflat.1 (by omega) x)
      (supplied_blocksAtAll hrest hs.2 hflat.2 (by omega) x)

/-- The bodies of the blocks of bodies are stored as the trees have them. -/
theorem supplied_blocksAtBodies {ids : List BodyId} {bodies : List (List Node)}
    (hn : BodiesAt a ids bodies) (hs : Node.ShapedInBodies bodies)
    (hflat : Node.nestingsInBodies bodies = []) (hd : Node.innerHeightInBodies bodies ≤ d)
    (x : String) : List.Forall₂ (Supplied a d) (bodiesOf a x (blocksAtBodies a ids bodies))
      (Node.blockBodiesInBodies x bodies) := by
  cases bodies with
  | nil => simp [blocksAtBodies, bodiesOf, Node.blockBodiesInBodies]
  | cons body rest =>
    simp only [BodiesAt] at hn
    obtain ⟨b, others, rfl, hbody, hrest⟩ := hn
    simp only [Node.nestingsInBodies, List.append_eq_nil_iff] at hflat
    simp only [Node.innerHeightInBodies] at hd
    simp only [blocksAtBodies, bodiesOf_append, Node.blockBodiesInBodies]
    exact List.rel_append (supplied_blocksAtAll hbody hs.1 hflat.1 (by omega) x)
      (supplied_blocksAtBodies hrest hs.2 hflat.2 (by omega) x)

end

/-- The bodies that some levels without nested blocks have for a name hold the trees that they
list. -/
theorem supplied_blocksOf {roots : List BodyId} {levels : List (List Node)}
    (hl : Template.LevelsAt a roots levels) (hs : ∀ level ∈ levels, Node.ShapedAll level)
    (hflat : ∀ level ∈ levels, Node.nestingsAll level = [])
    (hd : ∀ level ∈ levels, Node.innerHeightAll level ≤ d) (x : String) :
    List.Forall₂ (Supplied a d) (bodiesOf a x (Template.blocksOf a roots levels))
      (levels.flatMap (Node.blockBodiesAll x)) := by
  induction hl with
  | nil => exact .nil
  | @cons root level roots levels hroot _ ih =>
    rw [Template.blocksOf_cons, bodiesOf_append, List.flatMap_cons]
    have hrest := ih (fun l hl => hs l (List.mem_cons_of_mem _ hl))
      (fun l hl => hflat l (List.mem_cons_of_mem _ hl))
      (fun l hl => hd l (List.mem_cons_of_mem _ hl))
    refine List.rel_append ?_ hrest
    exact supplied_blocksAtAll hroot.2 (hs level (List.mem_cons_self ..))
      (hflat level (List.mem_cons_self ..)) (hd level (List.mem_cons_self ..)) x

end Overlay

end Merging

namespace Template

open Arena Merging

/-- The contents that the levels below a layout override its blocks with: the bodies that they have
for the name of a block laid over each other, the most derived one first. -/
def overrides (below : List (List Node)) (x : String) : Option (List Node) :=
  overlay Node.isBlockSuper (below.flatMap (Node.blockBodiesAll x))

/-- Merging levels that nest no blocks and then a layout overrides the blocks of the layout. -/
theorem mergeAll_rewrites {a : Arena} {lower : List BodyId} {r : BodyId} {below : List (List Node)}
    {root : List Node} (hread : LevelsRead (below ++ [root]))
    (hflat : ∀ level ∈ below, Node.nestingsAll level = [])
    (hstored : LevelsStoredAt {} a (lower ++ [r]) (below ++ [root]))
    (hlower : LevelsAt a lower below) (hfree : FreeBody a r) (hroot : NodesAt a (a.body r) root) :
    ∃ m nodes, mergeAll a (lower ++ [r]) = some m ∧ m.arena.tree? r = some nodes ∧
      Node.Rewrites (overrides below) root nodes := by
  have ha := hstored.forest
  have hsbelow : ∀ level ∈ below, Node.ShapedAll level :=
    fun level hl => hread.shaped level (List.mem_append_left _ hl)
  have hsroot : Node.ShapedAll root := hread.shaped root (by simp)
  have hsize : a.bodies.size = Node.bodyCountInBodies below + (Node.bodyCountAll root + 1) := by
    rw [hstored.size_bodies, Node.bodyCountInBodies_append]
    simp [Node.bodyCountInBodies]
  have hheight := Node.heightAll_le_bodyCountAll root
  have hinner := Node.innerHeights_le hsbelow
  have hblocks := hstored.fresh.nodup
  rw [blocksOf_concat hlower, List.map_append] at hblocks
  obtain ⟨hblocks₁, -, hapart⟩ := List.nodup_append.1 hblocks
  -- the levels below
  have hfuel : ∀ level ∈ below,
      Node.outerHeightAll level + Node.innerHeights below ≤ a.bodies.size := by
    intro level hl
    have hle := Node.outerHeightAll_add_le hsbelow level hl
    omega
  have hbelow := mergeLevels_flat ha hlower hsbelow hflat (Over.start a)
    (quiet_start hlower hsbelow hflat) (fun v hv => List.mem_map_of_mem hv) hfuel
  have hlaid := laid_settleAll ha (fun v hv => owns_of_mem_blocksOf hv) hblocks₁
  generalize settleAll { arena := a } (blocksOf a lower below) = m at hbelow hlaid
  -- the layout
  have hready : Ready a (overrides below) (Node.innerHeights below) m
      (blocksAtAll a (a.body r) root) := by
    have hfresh : ∀ v ∈ blocksAtAll a (a.body r) root,
        v.2 ∉ (blocksOf a lower below).map Prod.snd :=
      fun v hv hmem => hapart _ hmem _ (List.mem_map_of_mem hv) rfl
    refine ⟨hlaid.isOver, ?_, ?_, ?_⟩
    · exact fun v hv => hlaid.untouched (hfresh v hv)
    · intro v _
      rw [hlaid.content]
      exact overlay_supplied (supplied_blocksOf hlower hsbelow hflat
        Node.innerHeightAll_le_innerHeights v.1)
    · intro v hv c hc id hid hbody
      rw [hlaid.content] at hc
      obtain ⟨body, hmem, hid⟩ := mem_of_mem_overlay hc hid
      obtain ⟨w, hw, rfl⟩ := List.mem_map.1 hmem
      have hsame := ha.body_unique hbody hid
      refine hfresh v hv ?_
      rw [hsame]
      exact List.mem_map_of_mem (List.mem_filter.1 hw).1
  have hnodup := hread.names_nodup root (by simp)
  obtain ⟨m', hwalk, hw, nodes, hnodes, hrewrites, -, hdeep⟩ :=
    mergeNodes_rewrites (k := a.bodies.size) ha hroot hsroot hnodup hready (by omega)
  have hplain := ha.not_owns_of_free hfree
  refine ⟨m', nodes, ?_, ?_, hrewrites⟩
  · rw [mergeAll, List.foldlM_append, hbelow]
    show [r].foldlM (fun m root => mergeIn (a.bodies.size + 1) root m) m = some m'
    rw [List.foldlM_cons, mergeIn_succ, hlaid.isOver.plain hplain, hwalk]
    rfl
  · rw [tree?, unfold_succ, hw.isOver.plain hplain]
    refine mapM_readNode_of_nodesAt hnodes ?_
    rw [hw.isOver.size]
    omega

/-- The template of levels that nest no blocks below a layout is the layout with its blocks
overridden. -/
theorem mergeLevels_rewrites {below : List (List Node)} {root : List Node}
    (hread : LevelsRead (below ++ [root])) (hflat : ∀ level ∈ below, Node.nestingsAll level = []) :
    ∃ t, mergeLevels (below ++ [root]) = .ok t ∧ Node.Rewrites (overrides below) root t.nodes := by
  have hstored := storeLevels_spec forest_empty hread.shaped
  unfold mergeLevels
  generalize storeLevels (below ++ [root]) {} = stored at hstored
  obtain ⟨a, roots⟩ := stored
  dsimp only at hstored ⊢
  obtain ⟨lower, r, rfl, hlower, hlast⟩ := levelsAt_concat hstored.levelsAt
  cases hlast with
  | cons hr _ =>
    obtain ⟨hfree, hroot⟩ := hr
    rw [List.getLast?_concat, Option.getD_some, List.length_append, List.length_singleton]
    by_cases hone : lower.length + 1 ≤ 1
    · -- a template without a layout is not merged, and there is nothing to override
      rw [if_pos hone]
      obtain rfl : lower = [] := List.length_eq_zero_iff.1 (by omega)
      cases hlower
      have hsize := hstored.size_bodies
      have hheight := Node.heightAll_le_bodyCountAll root
      simp only [List.nil_append, Node.bodyCountInBodies] at hsize
      have htree : a.tree? r = some root := by
        rw [tree?, unfold_succ]
        exact mapM_readNode_of_nodesAt hroot (by omega)
      exact ⟨_, ofArena_eq htree, Node.rewrites_self fun x _ => rfl⟩
    · rw [if_neg hone]
      obtain ⟨m, nodes, hmerge, htree, hrewrites⟩ :=
        mergeAll_rewrites hread hflat hstored hlower hfree hroot
      rw [hmerge]
      exact ⟨_, ofArena_eq htree, hrewrites⟩

/-- A chain whose levels below the last layout nest no blocks resolves, and its template is the
layout with its blocks overridden, in the one way that there is. -/
theorem resolve_rewrites {setup : Setup} {name : Option String} {tokens : List Token}
    {below : List (List Node)} {root : List Node}
    (hread : readChain setup name tokens = .ok (below ++ [root]))
    (hflat : ∀ level ∈ below, Node.nestingsAll level = []) :
    ∃ t, (resolve setup name tokens).1 = .ok t ∧
      ∀ nodes, Node.Rewrites (overrides below) root nodes ↔ nodes = t.nodes := by
  obtain ⟨t, ht, hrewrites⟩ := mergeLevels_rewrites (readChain_spec hread) hflat
  refine ⟨t, ?_, fun nodes => ⟨fun h => h.unique hrewrites, ?_⟩⟩
  · rw [resolve_eq, hread]
    exact ht
  · rintro rfl
    exact hrewrites

/-- A layout that nests a block, and a level between it and the template. -/
def nestedLayout : Setup where
  sources := [
    ("mid.liquid", extendsSource "root"
      (tagSource "if a" ++ blockSource "y" ("M" ++ superSource) ++ tagSource "endif")),
    ("root.liquid", blockSource "x" ("[" ++ blockSource "y" "R" ++ "]"))]

/-- The tokens of a template that overrides the nested block. -/
def nestedOverride : List Token :=
  tokensOf (extendsSource "mid" (blockSource "y" ("L" ++ superSource)))

/-- In the body of the nested block, the content of the template stands before that of the level
between, and the content of the layout is last; both references to it are gone. -/
theorem resolve_rewrites_nestedOverride : ∃ below root,
    readChain nestedLayout none nestedOverride = .ok (below ++ [root]) ∧ below.length = 2 ∧
      (∀ level ∈ below, Node.nestingsAll level = []) ∧
      ∃ t, (resolve nestedLayout none nestedOverride).1 = .ok t ∧
        t.outline = "\x7b% block x %\x7d\n  \"[\"\n  \x7b% block y %\x7d\n    \"L\"\n" ++
          "    \"M\"\n    \"R\"\n  \"]\"\n" ∧
        ∀ nodes, Node.Rewrites (overrides below) root nodes ↔ nodes = t.nodes := by
  have hcheck : (readChain nestedLayout none nestedOverride).toOption.map
      (fun levels => (levels.length,
        levels.dropLast.all fun level => (Node.nestingsAll level).isEmpty)) = some (3, true) := by
    decide +kernel
  obtain ⟨levels, hread, hcheck⟩ := exists_ok_of_map_toOption hcheck
  simp only [Prod.mk.injEq, List.all_eq_true, List.isEmpty_iff] at hcheck
  obtain ⟨below, root, rfl⟩ := exists_concat (readChain_spec hread).ne_nil
  rw [List.dropLast_concat, List.length_append] at hcheck
  obtain ⟨hlen, hflat⟩ := hcheck
  obtain ⟨t, ht, hrewrites⟩ := resolve_rewrites hread hflat
  have hmerged : (resolve nestedLayout none nestedOverride).1.toOption.map outline =
      some ("\x7b% block x %\x7d\n  \"[\"\n  \x7b% block y %\x7d\n    \"L\"\n" ++
        "    \"M\"\n    \"R\"\n  \"]\"\n") := by
    decide +kernel
  rw [ht] at hmerged
  exact ⟨below, root, hread, by simpa using hlen, hflat, t, ht, Option.some.inj hmerged, hrewrites⟩

end Template

end Stencil
