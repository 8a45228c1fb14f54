import Stencil.Proofs.Layout.Overlay
import Stencil.Proofs.Layout.Settle

/-!
# Merging levels whose blocks hold no blocks

When no block of a level holds another block, merging the level is merging its blocks in source
order (`mergeNodes_flat`), for the walk into a merged block finds nothing to merge
(`mergeNodes_inert`).  Blocks whose bodies are all different are merged to the overlays of their
bodies (`laid_settleAll`), so after some such levels the content of a name is the overlay of the
bodies that the levels have for it.
-/

set_option autoImplicit false

namespace Stencil.Merging

open Arena

/-- The bodies of the blocks of a name, in order. -/
def bodiesOf (a : Arena) (x : String) (vs : List (String × BodyId)) : List (List NodeId) :=
  (vs.filter fun v => v.1 = x).map fun v => a.body v.2

/-- The state after merging blocks with different bodies, one after the other. -/
structure Laid (a : Arena) (vs : List (String × BodyId)) (m : Merging) : Prop where
  isOver : Over a m
  untouched : ∀ {b}, b ∉ vs.map Prod.snd → m.arena.body b = a.body b
  content : ∀ x, m.content? x = overlay a.isBlockSuper (bodiesOf a x vs)

/-- Merging blocks with different bodies lays the bodies of each name over each other. -/
theorem laid_settleAll {a : Arena} (ha : Forest a) {vs : List (String × BodyId)}
    (hvs : ∀ v ∈ vs, Owns a v.1 v.2) (hnodup : (vs.map Prod.snd).Nodup) :
    Laid a vs (settleAll { arena := a } vs) := by
  refine ⟨(Over.start a).settleAll ha hvs, body_settleAll_of_unmerged ha hvs, fun y => ?_⟩
  induction vs using List.reverseRecOn with
  | nil => rfl
  | append_singleton vs v ih =>
    obtain ⟨x, own⟩ := v
    simp only [List.map_append, List.map_cons, List.map_nil] at hnodup
    obtain ⟨hbefore, -, hapart⟩ := List.nodup_append.1 hnodup
    have hfresh : own ∉ vs.map Prod.snd := fun h => hapart own h own (by simp) rfl
    have hown : Owns a x own := hvs (x, own) (by simp)
    have hus : ∀ v ∈ vs, Owns a v.1 v.2 := fun v hv => hvs v (List.mem_append_left _ hv)
    have hm := (Over.start a).settleAll ha hus
    have hbody := body_settleAll_of_unmerged ha hus hfresh
    have ih := ih hus hbefore
    rw [settleAll_append, settleAll_cons, settleAll_nil]
    generalize settleAll { arena := a } vs = m at hm hbody ih
    have hstep := settle_spec ha hm hown
    by_cases hy : y = x
    · subst hy
      have hbodies : bodiesOf a y (vs ++ [(y, own)]) = bodiesOf a y vs ++ [a.body own] := by
        simp [bodiesOf]
      rw [hstep.content_eq, hbodies, overlay_concat, hbody, ih]
      cases hc : overlay a.isBlockSuper (bodiesOf a y vs) with
      | none => rfl
      | some c =>
        simp only [blend, Option.some.injEq]
        split
        · next heq =>
          -- nodes of another body would stand in two bodies, so there are none
          cases c with
          | nil => rfl
          | cons id c =>
            obtain ⟨body, hbody, hid⟩ := mem_of_mem_overlay hc (List.mem_cons_self ..)
            obtain ⟨w, hw, rfl⟩ := List.mem_map.1 hbody
            have hid' : id ∈ a.body own := heq ▸ List.mem_cons_self ..
            have hsame := ha.body_unique hid' hid
            have hmem := List.mem_map_of_mem (f := Prod.snd) (List.mem_filter.1 hw).1
            exact absurd (hsame ▸ hmem) hfresh
        · rfl
    · have hbodies : bodiesOf a y (vs ++ [(x, own)]) = bodiesOf a y vs := by
        simp [bodiesOf, Ne.symm hy]
      rw [hbodies, ← ih]
      exact hstep.content_of_ne ha hm hown hy

/-- A block holds the content of its name until another block of the name is merged. -/
theorem content_eq_body_of_last {a : Arena} (ha : Forest a) {m : Merging} (hm : Over a m)
    {us vs : List (String × BodyId)} {x : String} {b : BodyId}
    (howns : ∀ v ∈ us ++ (x, b) :: vs, Owns a v.1 v.2) (hlast : ∀ v ∈ vs, x ≠ v.1) :
    (m.settleAll (us ++ (x, b) :: vs)).content? x =
      some ((m.settleAll (us ++ (x, b) :: vs)).arena.body b) := by
  have hus : ∀ v ∈ us, Owns a v.1 v.2 := fun v hv => howns v (List.mem_append_left _ hv)
  have hb : Owns a x b := howns (x, b) (by simp)
  have hvs : ∀ v ∈ vs, Owns a v.1 v.2 := fun v hv => howns v (by simp [hv])
  have hstep := settle_spec ha (hm.settleAll ha hus) hb
  rw [settleAll_append, settleAll_cons, content_settleAll_of_ne ha hstep.isOver hvs hlast,
    body_settleAll_of_ne ha hstep.isOver hvs hb hlast]
  exact hstep.own_eq

/-- A node that holds a tree without blocks, at most `d` bodies deep. -/
def Inert (a : Arena) (d : Nat) (id : NodeId) : Prop :=
  ∃ n, NodeAt a id n ∧ Node.names n = [] ∧ Node.height n ≤ d

section Inert

variable {a : Arena} {m : Merging}

mutual

/-- Merging a node without blocks changes nothing. -/
theorem mergeNode_of_no_names (ha : Forest a) (hm : Over a m) {id : NodeId} {n : Node} {k : Nat}
    (hn : NodeAt a id n) (hnames : Node.names n = []) (hk : Node.height n ≤ k) :
    mergeNode k m id = some m := by
  unfold mergeNode
  rw [hm.block?, hm.children]
  cases n with
  | literal t => simp [block?_of_cell? hn, children_of_cell? hn, Cell.block?, Cell.bodies]
  | output o t => simp [block?_of_cell? hn, children_of_cell? hn, Cell.block?, Cell.bodies]
  | tag head bodies t =>
    obtain ⟨ids, hcell, hbodies⟩ := hn
    simp only [Node.names, List.append_eq_nil_iff, Option.toList_eq_nil_iff] at hnames
    have hnone : a.block? id = none := by simp [block?_of_cell? hcell, Cell.block?, hnames.1]
    rw [hnone, children_of_cell? hcell]
    refine mergeBodies_of_no_names ha hm hbodies hnames.2 (fun b hb => ?_) hk
    exact ha.not_owns_of_mem_children (by rwa [children_of_cell? hcell]) hnone

/-- Merging nodes without blocks changes nothing. -/
theorem mergeNodes_of_no_names (ha : Forest a) (hm : Over a m) {ids : List NodeId}
    {nodes : List Node} {k : Nat} (hn : NodesAt a ids nodes) (hnames : Node.namesAll nodes = [])
    (hk : Node.heightAll nodes ≤ k) : ids.foldlM (mergeNode k) m = some m := by
  cases nodes with
  | nil =>
    rw [(nodesAt_nil a ids).1 hn]
    rfl
  | cons n rest =>
    simp only [NodesAt] at hn
    obtain ⟨id, others, rfl, hn, hrest⟩ := hn
    simp only [Node.namesAll, List.append_eq_nil_iff] at hnames
    simp only [Node.heightAll] at hk
    have hfirst := mergeNode_of_no_names ha hm hn hnames.1 (by omega : Node.height n ≤ k)
    have hothers := mergeNodes_of_no_names ha hm hrest hnames.2 (by omega : Node.heightAll rest ≤ k)
    rw [List.foldlM_cons, hfirst]
    exact hothers

/-- Merging bodies without blocks changes nothing. -/
theorem mergeBodies_of_no_names (ha : Forest a) (hm : Over a m) {ids : List BodyId}
    {bodies : List (List Node)} {k : Nat} (hn : BodiesAt a ids bodies)
    (hnames : Node.namesInBodies bodies = []) (hplain : ∀ b ∈ ids, ∀ x, ¬ Owns a x b)
    (hk : Node.heightInBodies bodies ≤ k) : ids.foldlM (fun m b => mergeIn k b m) m = some m := by
  cases bodies with
  | nil =>
    rw [(bodiesAt_nil a ids).1 hn]
    rfl
  | cons body rest =>
    simp only [BodiesAt] at hn
    obtain ⟨b, others, rfl, hbody, hrest⟩ := hn
    simp only [Node.namesInBodies, List.append_eq_nil_iff] at hnames
    simp only [Node.heightInBodies] at hk
    obtain ⟨k, rfl⟩ : ∃ j, k = j + 1 := ⟨k - 1, by omega⟩
    have hfirst : mergeIn (k + 1) b m = some m := by
      rw [mergeIn_succ, hm.plain (hplain b (List.mem_cons_self ..))]
      exact mergeNodes_of_no_names ha hm hbody hnames.1 (by omega)
    have hothers := mergeBodies_of_no_names ha hm hrest hnames.2
      (fun b hb => hplain b (List.mem_cons_of_mem _ hb))
      (by omega : Node.heightInBodies rest ≤ k + 1)
    rw [List.foldlM_cons, hfirst]
    exact hothers

end

/-- Walking over inert nodes merges nothing. -/
theorem mergeNodes_inert (ha : Forest a) (hm : Over a m) {d k : Nat} (hk : d ≤ k)
    {ids : List NodeId} (hids : ∀ id ∈ ids, Inert a d id) :
    ids.foldlM (mergeNode k) m = some m := by
  induction ids with
  | nil => rfl
  | cons id rest ih =>
    obtain ⟨n, hn, hnames, hheight⟩ := hids id (List.mem_cons_self ..)
    have hfirst := mergeNode_of_no_names ha hm hn hnames (Nat.le_trans hheight hk)
    have hrest := ih fun i hi => hids i (List.mem_cons_of_mem _ hi)
    rw [List.foldlM_cons, hfirst]
    exact hrest

/-- A node that is inert is so to any greater depth. -/
theorem Inert.mono {d d' : Nat} (h : d ≤ d') {id : NodeId} (hid : Inert a d id) :
    Inert a d' id := by
  obtain ⟨n, hn, hnames, hheight⟩ := hid
  exact ⟨n, hn, hnames, Nat.le_trans hheight h⟩

/-- The nodes of stored trees without blocks are inert. -/
theorem inert_of_no_names {d : Nat} {ids : List NodeId} {nodes : List Node}
    (hn : NodesAt a ids nodes) (hnames : Node.namesAll nodes = []) (hd : Node.heightAll nodes ≤ d) :
    ∀ id ∈ ids, Inert a d id := by
  induction nodes generalizing ids with
  | nil => simp [(nodesAt_nil a ids).1 hn]
  | cons n rest ih =>
    simp only [NodesAt] at hn
    obtain ⟨id, others, rfl, hn, hrest⟩ := hn
    simp only [Node.namesAll, List.append_eq_nil_iff] at hnames
    simp only [Node.heightAll] at hd
    refine List.forall_mem_cons.2 ⟨⟨n, hn, hnames.1, by omega⟩, ?_⟩
    exact ih hrest hnames.2 (by omega)

/-- A state in which the contents of all names and the bodies of some blocks are inert. -/
structure Quiet (a : Arena) (d : Nat) (bodies : List BodyId) (m : Merging) : Prop where
  content : ∀ {x c}, m.content? x = some c → ∀ id ∈ c, Inert a d id
  body : ∀ b ∈ bodies, ∀ id ∈ m.arena.body b, Inert a d id

/-- The content of a name after a merge has nodes of the block and of what was there. -/
theorem mem_of_mem_blend {isMark : NodeId → Bool} {kids : List NodeId} {c : Option (List NodeId)}
    {id : NodeId} (h : id ∈ blend isMark kids c) : id ∈ kids ∨ ∃ l, c = some l ∧ id ∈ l := by
  cases c with
  | none => exact .inl h
  | some l =>
    simp only [blend] at h
    split at h
    · exact .inr ⟨l, rfl, h⟩
    · rcases mem_of_mem_substFirst h with h | h
      · exact .inr ⟨l, rfl, h⟩
      · exact .inl h

/-- A quiet state stays quiet when a block with an inert body is merged. -/
theorem Quiet.settle (ha : Forest a) (hm : Over a m) {d : Nat} {bodies : List BodyId}
    (hq : Quiet a d bodies m) {x : String} {own : BodyId} (hown : Owns a x own)
    (hmem : own ∈ bodies) : Quiet a d bodies (m.settle x own) := by
  have hstep := settle_spec ha hm hown
  have hnew : ∀ c, (m.settle x own).content? x = some c → ∀ id ∈ c, Inert a d id := by
    intro c hc id hid
    rw [hstep.content_eq] at hc
    cases hc
    rcases mem_of_mem_blend hid with hid | ⟨l, hl, hid⟩
    · exact hq.body own hmem id hid
    · exact hq.content hl id hid
  constructor
  · intro y c hc
    by_cases hy : y = x
    · subst hy
      exact hnew c hc
    · rw [hstep.content_of_ne ha hm hown hy] at hc
      exact hq.content hc
  · intro b hb
    rcases hstep.body_eq_or b with heq | heq
    · rw [heq]
      exact hnew _ hstep.own_eq
    · rw [heq]
      exact hq.body b hb

/-- A quiet state stays quiet when blocks with inert bodies are merged. -/
theorem Quiet.settleAll (ha : Forest a) (hm : Over a m) {d : Nat} {bodies : List BodyId}
    (hq : Quiet a d bodies m) {vs : List (String × BodyId)} (hvs : ∀ v ∈ vs, Owns a v.1 v.2)
    (hmem : ∀ v ∈ vs, v.2 ∈ bodies) : Quiet a d bodies (m.settleAll vs) := by
  induction vs generalizing m with
  | nil => exact hq
  | cons v vs ih =>
    have hown := hvs v (List.mem_cons_self ..)
    rw [settleAll_cons]
    exact ih (settle_spec ha hm hown).isOver (hq.settle ha hm hown (hmem v (List.mem_cons_self ..)))
      (fun w hw => hvs w (List.mem_cons_of_mem _ hw))
      fun w hw => hmem w (List.mem_cons_of_mem _ hw)

end Inert

section Flat

variable {a : Arena}

/-- Bodies without names of blocks have no blocks. -/
theorem blocksAtBodies_of_no_names {ids : List BodyId} {bodies : List (List Node)}
    (hs : Node.ShapedInBodies bodies) (hn : BodiesAt a ids bodies)
    (hnames : Node.namesInBodies bodies = []) : blocksAtBodies a ids bodies = [] := by
  rw [← List.map_eq_nil_iff, map_fst_blocksAtBodies hs hn, hnames]

/-- A shaped block that is stored: its name and its body are read off its cell. -/
theorem exists_of_head_block {head : Head} {bodies : List (List Node)} {ids : List BodyId}
    {t : Token} {x : String} (hlen : head.block?.isSome → bodies.length = 1)
    (hn : BodiesAt a ids bodies) (hx : head.block? = some x) :
    ∃ body b, bodies = [body] ∧ ids = [b] ∧ NodesAt a (a.body b) body ∧
      (Cell.tag head ids t).block? = some (x, b) := by
  obtain ⟨body, rfl⟩ := List.length_eq_one_iff.1 (hlen (by simp [hx]))
  simp only [BodiesAt] at hn
  obtain ⟨b, others, rfl, hbody, rfl⟩ := hn
  exact ⟨body, b, rfl, rfl, hbody, by simp [Cell.block?, hx]⟩

mutual

/-- Merging a tree whose blocks hold no blocks is merging its blocks in order. -/
theorem mergeNode_flat (ha : Forest a) {m : Merging} (hm : Over a m) {d k : Nat}
    {inert : List BodyId} (hq : Quiet a d inert m) {id : NodeId} {n : Node} (hn : NodeAt a id n)
    (hs : Node.Shaped n) (hflat : Node.nestings n = [])
    (hmem : ∀ v ∈ blocksAt a id n, v.2 ∈ inert) (hk : Node.outerHeight n + d ≤ k) :
    mergeNode k m id = some (m.settleAll (blocksAt a id n)) := by
  cases n with
  | literal t => exact mergeNode_of_no_names ha hm hn rfl (Nat.zero_le _)
  | output o t => exact mergeNode_of_no_names ha hm hn rfl (Nat.zero_le _)
  | tag head bodies t =>
    obtain ⟨ids, hcell, hbodies⟩ := hn
    have hblock : a.block? id = (Cell.tag head ids t).block? := block?_of_cell? hcell
    unfold mergeNode
    simp only [Node.nestings, List.append_eq_nil_iff] at hflat
    cases hhead : head.block? with
    | none =>
      have hnone : a.block? id = none := by simp [hblock, Cell.block?, hhead]
      have hlist : blocksAt a id (.tag head bodies t) = blocksAtBodies a ids bodies := by
        simp [blocksAt, hnone, children_of_cell? hcell, Cell.bodies]
      simp only [Node.outerHeight, hhead, Option.isSome_none, Bool.false_eq_true, if_false] at hk
      rw [hlist] at hmem ⊢
      rw [hm.block?, hm.children, hnone, children_of_cell? hcell]
      refine mergeBodies_flat ha hm hq hbodies hs.2 hflat.2 (fun b hb => ?_) hmem hk
      exact ha.not_owns_of_mem_children (by rwa [children_of_cell? hcell]) hnone
    | some x =>
      obtain ⟨body, b, rfl, rfl, hbody, hcellblock⟩ :=
        exists_of_head_block (t := t) hs.1 hbodies hhead
      have hsome : a.block? id = some (x, b) := hblock.trans hcellblock
      have hnames : Node.namesInBodies [body] = [] := by simpa [hhead] using hflat.1
      have hlist : blocksAt a id (.tag head [body] t) = [(x, b)] := by
        have hinner := blocksAtBodies_of_no_names hs.2 hbodies hnames
        simp [blocksAt, hsome, children_of_cell? hcell, Cell.bodies, hinner]
      simp only [Node.outerHeight, hhead, Option.isSome_some, if_true] at hk
      obtain ⟨k, rfl⟩ : ∃ j, k = j + 1 := ⟨k - 1, by omega⟩
      have hown : Owns a x b := ⟨id, hsome⟩
      have hbmem : b ∈ inert := hmem (x, b) (by simp [hlist])
      have hover := (settle_spec ha hm hown).isOver
      have hnext := hq.settle ha hm hown hbmem
      rw [hlist, hm.block?, hsome]
      show mergeIn (k + 1) b (m.settle x b) = _
      rw [mergeIn_succ]
      exact mergeNodes_inert ha hover (by omega) (hnext.body b hbmem)

/-- In nodes of which no block stands in another one, merging merges their blocks in order. -/
theorem mergeNodes_flat (ha : Forest a) {m : Merging} (hm : Over a m) {d k : Nat}
    {inert : List BodyId} (hq : Quiet a d inert m) {ids : List NodeId} {nodes : List Node}
    (hn : NodesAt a ids nodes) (hs : Node.ShapedAll nodes) (hflat : Node.nestingsAll nodes = [])
    (hmem : ∀ v ∈ blocksAtAll a ids nodes, v.2 ∈ inert) (hk : Node.outerHeightAll nodes + d ≤ k) :
    ids.foldlM (mergeNode k) m = some (m.settleAll (blocksAtAll a ids nodes)) := by
  cases nodes with
  | nil =>
    rw [(nodesAt_nil a ids).1 hn]
    rfl
  | cons n rest =>
    simp only [NodesAt] at hn
    obtain ⟨id, others, rfl, hn, hrest⟩ := hn
    simp only [Node.nestingsAll, List.append_eq_nil_iff] at hflat
    simp only [Node.outerHeightAll] at hk
    simp only [blocksAtAll, List.mem_append] at hmem ⊢
    have howns : ∀ v ∈ blocksAt a id n, Owns a v.1 v.2 := fun v hv => owns_of_mem_blocksAt hv
    have hmem₁ : ∀ v ∈ blocksAt a id n, v.2 ∈ inert := fun v hv => hmem v (.inl hv)
    have hfirst := mergeNode_flat ha hm hq hn hs.1 hflat.1 hmem₁ (by omega : _ ≤ k)
    have hover := hm.settleAll ha howns
    have hnext := hq.settleAll ha hm howns hmem₁
    have hothers := mergeNodes_flat ha hover hnext hrest hs.2 hflat.2 (fun v hv => hmem v (.inr hv))
      (by omega : _ ≤ k)
    rw [List.foldlM_cons, hfirst, settleAll_append]
    exact hothers

/-- In bodies of which no block stands in another one, merging merges their blocks in order. -/
theorem mergeBodies_flat (ha : Forest a) {m : Merging} (hm : Over a m) {d k : Nat}
    {inert : List BodyId} (hq : Quiet a d inert m) {ids : List BodyId} {bodies : List (List Node)}
    (hn : BodiesAt a ids bodies) (hs : Node.ShapedInBodies bodies)
    (hflat : Node.nestingsInBodies bodies = []) (hplain : ∀ b ∈ ids, ∀ x, ¬ Owns a x b)
    (hmem : ∀ v ∈ blocksAtBodies a ids bodies, v.2 ∈ inert)
    (hk : Node.outerHeightInBodies bodies + d ≤ k) :
    ids.foldlM (fun m b => mergeIn k b m) m =
      some (m.settleAll (blocksAtBodies a ids bodies)) := by
  cases bodies with
  | nil =>
    rw [(bodiesAt_nil a ids).1 hn]
    rfl
  | cons body rest =>
    simp only [BodiesAt] at hn
    obtain ⟨b, others, rfl, hbody, hrest⟩ := hn
    simp only [Node.nestingsInBodies, List.append_eq_nil_iff] at hflat
    simp only [Node.outerHeightInBodies] at hk
    simp only [blocksAtBodies, List.mem_append] at hmem ⊢
    obtain ⟨k, rfl⟩ : ∃ j, k = j + 1 := ⟨k - 1, by omega⟩
    have howns : ∀ v ∈ blocksAtAll a (a.body b) body, Owns a v.1 v.2 :=
      fun v hv => owns_of_mem_blocksAtAll hv
    have hmem₁ : ∀ v ∈ blocksAtAll a (a.body b) body, v.2 ∈ inert := fun v hv => hmem v (.inl hv)
    have hfirst : mergeIn (k + 1) b m = some (m.settleAll (blocksAtAll a (a.body b) body)) := by
      rw [mergeIn_succ, hm.plain (hplain b (List.mem_cons_self ..))]
      exact mergeNodes_flat ha hm hq hbody hs.1 hflat.1 hmem₁ (by omega)
    have hover := hm.settleAll ha howns
    have hnext := hq.settleAll ha hm howns hmem₁
    have hothers := mergeBodies_flat ha hover hnext hrest hs.2 hflat.2
      (fun b hb => hplain b (List.mem_cons_of_mem _ hb)) (fun v hv => hmem v (.inr hv))
      (by omega : _ ≤ k + 1)
    rw [List.foldlM_cons, hfirst, settleAll_append]
    exact hothers

end

mutual

/-- The bodies of blocks that hold no blocks are inert. -/
theorem inert_of_mem_blocksAt {id : NodeId} {n : Node} (hn : NodeAt a id n) (hs : Node.Shaped n)
    (hflat : Node.nestings n = []) :
    ∀ v ∈ blocksAt a id n, ∀ i ∈ a.body v.2, Inert a (Node.innerHeight n) i := by
  cases n with
  | literal t => simp [blocksAt]
  | output o t => simp [blocksAt]
  | tag head bodies t =>
    obtain ⟨ids, hcell, hbodies⟩ := hn
    have hblock : a.block? id = (Cell.tag head ids t).block? := block?_of_cell? hcell
    simp only [Node.nestings, List.append_eq_nil_iff] at hflat
    cases hhead : head.block? with
    | none =>
      have hnone : a.block? id = none := by simp [hblock, Cell.block?, hhead]
      simp only [blocksAt, hnone, Option.toList_none, List.nil_append, children_of_cell? hcell,
        Node.innerHeight, hhead, Option.isSome_none, Bool.false_eq_true, if_false]
      exact inert_of_mem_blocksAtBodies hbodies hs.2 hflat.2
    | some x =>
      obtain ⟨body, b, rfl, rfl, hbody, hcellblock⟩ :=
        exists_of_head_block (t := t) hs.1 hbodies hhead
      have hsome : a.block? id = some (x, b) := hblock.trans hcellblock
      have hnames : Node.namesInBodies [body] = [] := by simpa [hhead] using hflat.1
      have hinner := blocksAtBodies_of_no_names hs.2 hbodies hnames
      simp only [Node.namesInBodies, List.append_nil] at hnames
      simp only [blocksAt, hsome, Option.toList_some, children_of_cell? hcell, Cell.bodies, hinner,
        List.append_nil, List.mem_singleton, forall_eq, Node.innerHeight, hhead, Option.isSome_some,
        if_true, Node.heightInBodies]
      exact inert_of_no_names hbody hnames (by omega)

/-- Where no block stands in another one, the bodies of the blocks of nodes are inert. -/
theorem inert_of_mem_blocksAtAll {ids : List NodeId} {nodes : List Node} (hn : NodesAt a ids nodes)
    (hs : Node.ShapedAll nodes) (hflat : Node.nestingsAll nodes = []) :
    ∀ v ∈ blocksAtAll a ids nodes, ∀ i ∈ a.body v.2, Inert a (Node.innerHeightAll nodes) i := by
  cases nodes with
  | nil => simp [blocksAtAll]
  | cons n rest =>
    simp only [NodesAt] at hn
    obtain ⟨id, others, rfl, hn, hrest⟩ := hn
    simp only [Node.nestingsAll, List.append_eq_nil_iff] at hflat
    simp only [blocksAtAll, List.mem_append, Node.innerHeightAll]
    rintro v (hv | hv) i hi
    · exact (inert_of_mem_blocksAt hn hs.1 hflat.1 v hv i hi).mono (Nat.le_max_left ..)
    · exact (inert_of_mem_blocksAtAll hrest hs.2 hflat.2 v hv i hi).mono (Nat.le_max_right ..)

/-- Where no block stands in another one, the bodies of the blocks of bodies are inert. -/
theorem inert_of_mem_blocksAtBodies {ids : List BodyId} {bodies : List (List Node)}
    (hn : BodiesAt a ids bodies) (hs : Node.ShapedInBodies bodies)
    (hflat : Node.nestingsInBodies bodies = []) :
    ∀ v ∈ blocksAtBodies a ids bodies, ∀ i ∈ a.body v.2,
      Inert a (Node.innerHeightInBodies bodies) i := by
  cases bodies with
  | nil => simp [blocksAtBodies]
  | cons body rest =>
    simp only [BodiesAt] at hn
    obtain ⟨b, others, rfl, hbody, hrest⟩ := hn
    simp only [Node.nestingsInBodies, List.append_eq_nil_iff] at hflat
    simp only [blocksAtBodies, List.mem_append, Node.innerHeightInBodies]
    rintro v (hv | hv) i hi
    · exact (inert_of_mem_blocksAtAll hbody hs.1 hflat.1 v hv i hi).mono (Nat.le_max_left ..)
    · exact (inert_of_mem_blocksAtBodies hrest hs.2 hflat.2 v hv i hi).mono (Nat.le_max_right ..)

end

end Flat

end Stencil.Merging
