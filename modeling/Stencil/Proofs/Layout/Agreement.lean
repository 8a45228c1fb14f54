import Stencil.Proofs.Layout.Run

/-!
# Whether blocks of one name agree

Two blocks of one name that are reached from the root of a resolved template need not hold the same
nodes: a block keeps what its name had when the merge walked over it last, and the content of the
name can still grow.  The blocks agree exactly when it does not (`Template.resolve_blocksAgree_iff`,
`Merging.SettledLast`).  The proof compares the walk of the merge with the tree it leaves: the walk
has been at every block that is reached in the end (`Merging.Run.visited_of_below`), as a marking
worklist has been at every live object, and no block where it has been is lost again
(`Merging.Run.below_of_visited`), since only marks are ever replaced.
-/

set_option autoImplicit false

namespace Stencil

/-- The nodes that are reached from a body. -/
inductive Arena.Below (a : Arena) (root : BodyId) : NodeId → Prop
  | direct {id : NodeId} (h : id ∈ a.body root) : Below a root id
  | deep {id id' : NodeId} {b : BodyId} (h : Below a root id) (hb : b ∈ a.children id)
      (hid : id' ∈ a.body b) : Below a root id'

/-- All blocks of one name that are reached from the root hold the same nodes. -/
def Template.BlocksAgree (t : Template) : Prop :=
  ∀ {id id' : NodeId} {x : String} {b b' : BodyId}, t.arena.Below t.root id →
    t.arena.Below t.root id' → t.arena.block? id = some (x, b) → t.arena.block? id' = some (x, b') →
      t.arena.body b = t.arena.body b'

namespace Merging

open Arena

/-- Whether no block of the last layout misses what its name takes in later: after the last time
that the walk was at the block the content of the name stays as it is, unless the block holds the
canonical body of the name. -/
def SettledLast (a : Arena) (earlier last : List (String × BodyId)) : Prop :=
  ∀ us v ws, last = us ++ v :: ws → v ∉ ws →
    Dict.find? v.1 (settleAll { arena := a } (earlier ++ last)).canonical ≠ some v.2 →
      (settleAll { arena := a } (earlier ++ (us ++ [v]))).content? v.1 =
        (settleAll { arena := a } (earlier ++ last)).content? v.1

section Visited

variable {a : Arena} {tasks rest : List Task} {m m' : Merging} {vs : List (String × BodyId)}

/-- A node that the walk has still to be at, or whose bodies it has been at or has still to be at.
-/
def Covered (a : Arena) (tasks : List Task) (seen : List BodyId) (id : NodeId) : Prop :=
  .node id ∈ tasks ∨ ∀ b ∈ a.children id, b ∈ seen ∨ a.block? id = none ∧ .body b ∈ tasks

/-- Every node of the bodies that the walk has been at is covered. -/
def Closed (a : Arena) (tasks : List Task) (seen : List BodyId) (m : Merging) : Prop :=
  ∀ b ∈ seen, ∀ id ∈ m.arena.body b, Covered a tasks seen id

/-- A node stays covered when a task is done: the task is replaced by what covers it. -/
theorem Covered.step {task : Task} {tasks' : List Task} {seen seen' : List BodyId} {id : NodeId}
    (h : Covered a (task :: rest) seen id) (hseen : ∀ b ∈ seen, b ∈ seen')
    (hrest : ∀ t ∈ rest, t ∈ tasks') (hnode : task = .node id → Covered a tasks' seen' id)
    (hbody : ∀ b, task = .body b → b ∈ seen') : Covered a tasks' seen' id := by
  rcases h with h | h
  · rcases List.mem_cons.1 h with h | h
    · exact hnode h.symm
    · exact .inl (hrest _ h)
  · refine .inr fun b hb => ?_
    rcases h b hb with h | ⟨hnone, h⟩
    · exact .inl (hseen b h)
    · rcases List.mem_cons.1 h with h | h
      · exact .inl (hbody b h.symm)
      · exact .inr ⟨hnone, hrest _ h⟩

/-- When a walk is at its end, the bodies that it has been at are closed: those of its tasks, of the
blocks it merged, and bodies that are not those of blocks. -/
theorem Run.exists_closed (ha : Forest a) (h : Run tasks m vs m') (hm : Over a m)
    {seen : List BodyId} (hclosed : Closed a tasks seen m)
    (hplain : ∀ b, .body b ∈ tasks → ∀ x, ¬ Owns a x b) :
    ∃ seen', Closed a [] seen' m' ∧ (∀ b ∈ seen, b ∈ seen') ∧
      (∀ b, .body b ∈ tasks → b ∈ seen') ∧
      ∀ b ∈ seen', b ∈ seen ∨ (∀ x, ¬ Owns a x b) ∨ b ∈ vs.map Prod.snd := by
  induction h generalizing seen with
  | done => exact ⟨seen, hclosed, fun _ h => h, by simp, fun _ h => .inl h⟩
  | @body b rest m m' vs _ ih =>
    have hnext : Closed a ((m.arena.body b).map .node ++ rest) (b :: seen) m := by
      intro c hc id hid
      rcases List.mem_cons.1 hc with rfl | hc
      · exact .inl (List.mem_append_left _ (List.mem_map_of_mem hid))
      · refine (hclosed c hc id hid).step (fun b hb => List.mem_cons_of_mem _ hb)
          (fun t ht => List.mem_append_right _ ht) (fun h => nomatch h) fun b' hb' => ?_
        cases hb'
        exact List.mem_cons_self ..
    obtain ⟨seen', hseen', hold, hbodies, hnew⟩ := ih hm hnext fun c hc => by
      refine hplain c (List.mem_cons_of_mem _ ?_)
      simpa using hc
    refine ⟨seen', hseen', fun c hc => hold c (List.mem_cons_of_mem _ hc), ?_, ?_⟩
    · intro c hc
      rcases List.mem_cons.1 hc with hc | hc
      · cases hc
        exact hold _ (List.mem_cons_self ..)
      · exact hbodies c (List.mem_append_right _ hc)
    · intro c hc
      rcases hnew c hc with h | h
      · rcases List.mem_cons.1 h with rfl | h
        · exact .inr (.inl (hplain c (List.mem_cons_self ..)))
        · exact .inl h
      · exact .inr h
  | @block id x own rest m m' vs hblock _ ih =>
    rw [hm.block?] at hblock
    have hown : Owns a x own := ⟨id, hblock⟩
    have hstep := settle_spec ha hm hown
    have hnext : Closed a (((m.settle x own).arena.body own).map .node ++ rest) (own :: seen)
        (m.settle x own) := by
      intro c hc i hi
      -- the bodies that merging the block changed have the nodes that the walk goes on with
      rcases hstep.body_eq_or c with heq | heq
      · rw [heq] at hi
        exact .inl (List.mem_append_left _ (List.mem_map_of_mem hi))
      · rcases List.mem_cons.1 hc with rfl | hc
        · exact .inl (List.mem_append_left _ (List.mem_map_of_mem hi))
        · rw [heq] at hi
          refine (hclosed c hc i hi).step (fun b hb => List.mem_cons_of_mem _ hb)
            (fun t ht => List.mem_append_right _ ht) (fun h => ?_) fun b' hb' => nomatch hb'
          cases h
          refine .inr fun b hb => .inl ?_
          rw [ha.single hblock] at hb
          exact List.mem_cons.2 (.inl (List.mem_singleton.1 hb))
    obtain ⟨seen', hseen', hold, hbodies, hnew⟩ := ih hstep.isOver hnext fun c hc => by
      refine hplain c (List.mem_cons_of_mem _ ?_)
      simpa using hc
    refine ⟨seen', hseen', fun c hc => hold c (List.mem_cons_of_mem _ hc), ?_, ?_⟩
    · intro c hc
      refine hbodies c (List.mem_append_right _ ?_)
      simpa using hc
    · intro c hc
      rcases hnew c hc with h | h | h
      · rcases List.mem_cons.1 h with rfl | h
        · exact .inr (.inr (List.mem_cons_self ..))
        · exact .inl h
      · exact .inr (.inl h)
      · exact .inr (.inr (List.mem_cons_of_mem _ h))
  | @tag id rest m m' vs hblock _ ih =>
    rw [hm.block?] at hblock
    rw [hm.children] at ih
    have hnext : Closed a ((a.children id).map .body ++ rest) seen m := by
      intro c hc i hi
      refine (hclosed c hc i hi).step (fun _ h => h) (fun t ht => List.mem_append_right _ ht)
        (fun h => ?_) fun b' hb' => nomatch hb'
      cases h
      exact .inr fun b hb => .inr ⟨hblock, List.mem_append_left _ (List.mem_map_of_mem hb)⟩
    obtain ⟨seen', hseen', hold, hbodies, hnew⟩ := ih hm hnext fun c hc => by
      rcases List.mem_append.1 hc with hc | hc
      · refine ha.not_owns_of_mem_children ?_ hblock
        simpa using hc
      · exact hplain c (List.mem_cons_of_mem _ hc)
    refine ⟨seen', hseen', hold, fun c hc => ?_, hnew⟩
    refine hbodies c (List.mem_append_right _ ?_)
    simpa using hc

/-- A walk over a body has been at every block that is reached from the body in the end. -/
theorem Run.visited_of_below (ha : Forest a) {root : BodyId} (h : Run [.body root] m vs m')
    (hm : Over a m) (hroot : ∀ x, ¬ Owns a x root) {id : NodeId} {x : String} {b : BodyId}
    (hid : Below m'.arena root id) (hblock : a.block? id = some (x, b)) : (x, b) ∈ vs := by
  have hm' : Over a m' := h.settleAll ▸ hm.settleAll ha (h.owns ha hm)
  have hstart : Closed a [.body root] [] m := fun _ hb => absurd hb List.not_mem_nil
  have htask : ∀ b, .body b ∈ [Task.body root] → ∀ x, ¬ Owns a x b := by
    intro b hb
    cases List.mem_singleton.1 hb
    exact hroot
  obtain ⟨seen, hseen, -, hbodies, hnew⟩ := h.exists_closed ha hm hstart htask
  have hchild {id : NodeId} {b c : BodyId} (hb : b ∈ seen) (hid : id ∈ m'.arena.body b)
      (hc : c ∈ a.children id) : c ∈ seen := by
    rcases hseen b hb id hid with h | h
    · cases h
    · exact (h c hc).resolve_right fun h => nomatch h.2
  have hmem : ∃ c ∈ seen, id ∈ m'.arena.body c := by
    clear hblock
    induction hid with
    | direct hid => exact ⟨root, hbodies root (List.mem_cons_self ..), hid⟩
    | deep _ hb hid ih =>
      obtain ⟨c, hc, hmem⟩ := ih
      rw [hm'.children] at hb
      exact ⟨_, hchild hc hmem hb, hid⟩
  obtain ⟨c, hc, hmem⟩ := hmem
  have hown : Owns a x b := ⟨id, hblock⟩
  rcases hnew b (hchild hc hmem (ha.mem_children hblock)) with h' | h' | h'
  · cases h'
  · exact absurd hown (h' x)
  · obtain ⟨⟨y, b'⟩, hv, rfl⟩ := List.mem_map.1 h'
    rw [ha.owns_unique hown (h.owns ha hm _ hv)]
    exact hv

end Visited

section Kept

variable {a : Arena} {tasks : List Task} {m m' : Merging} {us vs ws : List (String × BodyId)}

/-- Of the content of a name, no node but a mark is lost. -/
theorem mem_blend_of_mem {isMark : NodeId → Bool} {id : NodeId} (hmark : isMark id = false)
    (kids : List NodeId) {content : List NodeId} (h : id ∈ content) :
    id ∈ blend isMark kids (some content) := by
  simp only [blend]
  split
  · exact h
  · exact mem_substFirst_of_mem hmark h

/-- A node that is no mark and that a block and its name both hold is held by both ever after. -/
theorem mem_body_settleAll (ha : Forest a) (hm : Over a m) (hvs : ∀ v ∈ vs, Owns a v.1 v.2)
    {x : String} {own : BodyId} (hown : Owns a x own) {id : NodeId} {c : List NodeId}
    (hmark : a.isBlockSuper id = false) (hc : m.content? x = some c) (hid : id ∈ c)
    (hbody : id ∈ m.arena.body own) : id ∈ (m.settleAll vs).arena.body own := by
  induction vs generalizing m c with
  | nil => exact hbody
  | cons v vs ih =>
    have hv := hvs v (List.mem_cons_self ..)
    have hrest : ∀ w ∈ vs, Owns a w.1 w.2 := fun w hw => hvs w (List.mem_cons_of_mem _ hw)
    have hstep := settle_spec ha hm hv
    rw [settleAll_cons]
    by_cases hx : x = v.1
    · subst hx
      have hcontent := hstep.content_eq
      rw [hc] at hcontent
      have hmem := mem_blend_of_mem hmark (m.arena.body v.2) hid
      refine ih hstep.isOver hrest hcontent hmem ?_
      rcases hstep.body_eq_or own with heq | heq
      · rw [heq, Option.some.inj (hstep.own_eq.symm.trans hcontent)]
        exact hmem
      · rw [heq]
        exact hbody
    · refine ih hstep.isOver hrest ((hstep.content_of_ne ha hm hv hx).trans hc) hid ?_
      rw [hstep.body_of_ne ha hm hv hx hown]
      exact hbody

/-- A block is no mark. -/
theorem isBlockSuper_of_block? {id : NodeId} {v : String × BodyId} (h : a.block? id = some v) :
    a.isBlockSuper id = false := by
  unfold Arena.block? at h
  unfold Arena.isBlockSuper
  cases hcell : a.cell? id with
  | none => simp [hcell] at h
  | some c =>
    cases c with
    | literal => rfl
    | output => simp [hcell, Cell.block?] at h
    | tag => rfl

/-- A mark has no bodies. -/
theorem children_of_isBlockSuper {id : NodeId} (h : a.isBlockSuper id = true) :
    a.children id = [] := by
  unfold Arena.isBlockSuper at h
  unfold Arena.children
  cases hcell : a.cell? id with
  | none => rfl
  | some c =>
    cases c with
    | literal => rfl
    | output => rfl
    | tag => simp [hcell, Cell.isBlockSuper] at h

/-- The blocks that a walk merges are reached in the end when its tasks are. -/
theorem Run.below_of_visited (ha : Forest a) (h : Run tasks m vs m') (hm : Over a m) {root : BodyId}
    (hnodes : ∀ id, .node id ∈ tasks → a.isBlockSuper id = false → Below m'.arena root id)
    (hbodies : ∀ b, .body b ∈ tasks →
      (∀ x, ¬ Owns a x b) ∧ ∀ id ∈ m'.arena.body b, Below m'.arena root id) :
    ∀ v ∈ vs, ∃ id, Below m'.arena root id ∧ a.block? id = some v := by
  have hm' : Over a m' := h.settleAll ▸ hm.settleAll ha (h.owns ha hm)
  induction h with
  | done => simp
  | @body b rest m m' vs _ ih =>
    obtain ⟨hplain, hreached⟩ := hbodies b (List.mem_cons_self ..)
    refine ih hm (fun id hid hmark => ?_) (fun c hc => ?_) hm'
    · rcases List.mem_append.1 hid with hid | hid
      · rw [hm.plain hplain, ← hm'.plain hplain] at hid
        exact hreached id (by simpa using hid)
      · exact hnodes id (List.mem_cons_of_mem _ hid) hmark
    · refine hbodies c (List.mem_cons_of_mem _ ?_)
      simpa using hc
  | @block id x own rest m m' vs hblock hrun ih =>
    rw [hm.block?] at hblock
    have hown : Owns a x own := ⟨id, hblock⟩
    have hstep := settle_spec ha hm hown
    have hbelow := hnodes id (List.mem_cons_self ..) (isBlockSuper_of_block? hblock)
    refine List.forall_mem_cons.2 ⟨⟨id, hbelow, hblock⟩, ih hstep.isOver (fun i hi hmark => ?_)
      (fun c hc => ?_) hm'⟩
    · rcases List.mem_append.1 hi with hi | hi
      · -- the block holds the content of its name by now, which only loses marks
        have hi : i ∈ (m.settle x own).arena.body own := by simpa using hi
        have hkept := mem_body_settleAll ha hstep.isOver (hrun.owns ha hstep.isOver) hown hmark
          hstep.own_eq hi hi
        rw [← hrun.settleAll] at hkept
        refine .deep hbelow ?_ hkept
        rw [hm'.children]
        exact ha.mem_children hblock
      · exact hnodes i (List.mem_cons_of_mem _ hi) hmark
    · refine hbodies c (List.mem_cons_of_mem _ ?_)
      simpa using hc
  | @tag id rest m m' vs hblock _ ih =>
    rw [hm.block?] at hblock
    rw [hm.children] at ih
    refine ih hm (fun i hi hmark => ?_) (fun c hc => ?_) hm'
    · refine hnodes i (List.mem_cons_of_mem _ ?_) hmark
      simpa using hi
    · rcases List.mem_append.1 hc with hc | hc
      · have hc : c ∈ a.children id := by simpa using hc
        refine ⟨ha.not_owns_of_mem_children hc hblock, fun i hi => ?_⟩
        have hmark : a.isBlockSuper id = false := by
          by_contra hmark
          rw [children_of_isBlockSuper (Bool.not_eq_false _ ▸ hmark)] at hc
          cases hc
        refine .deep (hnodes id (List.mem_cons_self ..) hmark) ?_ hi
        rw [hm'.children]
        exact hc
      · exact hbodies c (List.mem_cons_of_mem _ hc)

end Kept

section Last

variable {a : Arena} {m : Merging} {us vs ws : List (String × BodyId)}

/-- The canonical body of a name is the same for all further blocks. -/
theorem canonical_settleAll (ha : Forest a) (hm : Over a m) (hvs : ∀ v ∈ vs, Owns a v.1 v.2)
    {x : String} {b : BodyId} (h : Dict.find? x m.canonical = some b) :
    Dict.find? x (m.settleAll vs).canonical = some b := by
  induction vs generalizing m with
  | nil => exact h
  | cons v vs ih =>
    have hstep := settle_spec ha hm (hvs v (List.mem_cons_self ..))
    rw [settleAll_cons]
    refine ih hstep.isOver (fun w hw => hvs w (List.mem_cons_of_mem _ hw)) ?_
    by_cases hx : x = v.1
    · subst hx
      rw [hstep.canonical_eq, h, Option.getD_some]
    · rw [hstep.canonical_other hx, h]

/-- A body that is not the canonical one of its name stays as it is until its block is merged. -/
theorem body_settleAll_of_notMem (ha : Forest a) (hm : Over a m) (hvs : ∀ v ∈ vs, Owns a v.1 v.2)
    {x : String} {b target : BodyId} (hb : Owns a x b)
    (htarget : Dict.find? x m.canonical = some target) (hne : target ≠ b) (hnot : (x, b) ∉ vs) :
    (m.settleAll vs).arena.body b = m.arena.body b := by
  induction vs generalizing m with
  | nil => rfl
  | cons v vs ih =>
    obtain ⟨y, own⟩ := v
    have hv : Owns a y own := hvs (y, own) (List.mem_cons_self ..)
    have hrest : ∀ w ∈ vs, Owns a w.1 w.2 := fun w hw => hvs w (List.mem_cons_of_mem _ hw)
    have hstep := settle_spec ha hm hv
    simp only [List.mem_cons, not_or] at hnot
    have hone : ∀ w ∈ [(y, own)], Owns a w.1 w.2 := by simpa using hv
    have hfind : Dict.find? x (m.settle y own).canonical = some target :=
      canonical_settleAll ha hm hone htarget
    rw [settleAll_cons, ih hstep.isOver hrest hfind hnot.2]
    by_cases hx : x = y
    · subst hx
      refine hstep.body_other (fun e => hnot.1 (e ▸ rfl)) fun h => hne ?_
      exact Option.some.inj (htarget.symm.trans h)
    · exact hstep.body_of_ne ha hm hv hx hb

/-- In the end a block that does not hold the canonical body of its name has the content that the
name had when the block was merged last. -/
theorem content_eq_body_of_last_visit (ha : Forest a) (hm : Over a m) {v : String × BodyId}
    (hvs : ∀ w ∈ us ++ v :: ws, Owns a w.1 w.2) (hlast : v ∉ ws)
    (hne : Dict.find? v.1 (m.settleAll (us ++ v :: ws)).canonical ≠ some v.2) :
    (m.settleAll (us ++ [v])).content? v.1 =
      some ((m.settleAll (us ++ v :: ws)).arena.body v.2) := by
  have hus : ∀ w ∈ us, Owns a w.1 w.2 := fun w hw => hvs w (List.mem_append_left _ hw)
  have hv : Owns a v.1 v.2 := hvs v (by simp)
  have hws : ∀ w ∈ ws, Owns a w.1 w.2 := fun w hw => hvs w (by simp [hw])
  have hstep := settle_spec ha (hm.settleAll ha hus) hv
  simp only [settleAll_append, settleAll_cons, settleAll_nil] at hne ⊢
  generalize (m.settleAll us).settle v.1 v.2 = m₁ at hstep hne ⊢
  rw [body_settleAll_of_notMem ha hstep.isOver hws hv hstep.canonical_eq (fun e => hne ?_) hlast]
  · exact hstep.own_eq
  · have hfind := canonical_settleAll ha hstep.isOver hws hstep.canonical_eq
    rw [hfind, e]

end Last

section Agree

variable {a : Arena} {tasks : List Task} {m m' : Merging} {earlier last : List (String × BodyId)}

/-- Of the blocks of a name, one is the last. -/
theorem exists_last_of_name {x : String} {vs : List (String × BodyId)} (h : ∃ v ∈ vs, v.1 = x) :
    ∃ us b ws, vs = us ++ (x, b) :: ws ∧ ∀ w ∈ ws, x ≠ w.1 := by
  induction vs with
  | nil => simp at h
  | cons v vs ih =>
    by_cases hrest : ∃ w ∈ vs, w.1 = x
    · obtain ⟨us, b, ws, rfl, hws⟩ := ih hrest
      exact ⟨v :: us, b, ws, rfl, hws⟩
    · obtain ⟨w, hw, hx⟩ := h
      rcases List.mem_cons.1 hw with rfl | hw
      · exact ⟨[], w.2, vs, by rw [← hx]; rfl, fun u hu e => hrest ⟨u, hu, e.symm⟩⟩
      · exact absurd ⟨w, hw, hx⟩ hrest

/-- A block that is merged is merged a last time. -/
theorem exists_last_of_mem {v : String × BodyId} {vs : List (String × BodyId)} (h : v ∈ vs) :
    ∃ us ws, vs = us ++ v :: ws ∧ v ∉ ws := by
  induction vs with
  | nil => cases h
  | cons w vs ih =>
    by_cases hrest : v ∈ vs
    · obtain ⟨us, ws, rfl, hws⟩ := ih hrest
      exact ⟨w :: us, ws, rfl, hws⟩
    · rcases List.mem_cons.1 h with rfl | h
      · exact ⟨[], vs, rfl, hrest⟩
      · exact absurd h hrest

/-- The blocks that are reached after a merge agree exactly when no block misses what its name takes
in later. -/
theorem agree_iff_settledLast (ha : Forest a) {root : BodyId} (hroot : ∀ x, ¬ Owns a x root)
    (hearlier : Run tasks { arena := a } earlier m) (hlast : Run [.body root] m last m') :
    (∀ {id id' : NodeId} {x : String} {b b' : BodyId}, Below m'.arena root id →
      Below m'.arena root id' → m'.arena.block? id = some (x, b) →
        m'.arena.block? id' = some (x, b') → m'.arena.body b = m'.arena.body b') ↔
      SettledLast a earlier last := by
  have hstart := Over.start a
  have howns₁ := hearlier.owns ha hstart
  have hm : Over a m := hearlier.settleAll ▸ hstart.settleAll ha howns₁
  have howns₂ := hlast.owns ha hm
  have hm' : Over a m' := hlast.settleAll ▸ hm.settleAll ha howns₂
  have hend : settleAll { arena := a } (earlier ++ last) = m' := by
    rw [settleAll_append, ← hearlier.settleAll, ← hlast.settleAll]
  have hvisited {id : NodeId} {x : String} {b : BodyId} (hid : Below m'.arena root id)
      (hblock : m'.arena.block? id = some (x, b)) : (x, b) ∈ last := by
    rw [hm'.block?] at hblock
    exact hlast.visited_of_below ha hm hroot hid hblock
  -- what a merged block holds in the end, or its name
  have hsettled {us ws : List (String × BodyId)} {v : String × BodyId}
      (hsplit : last = us ++ v :: ws) (hnot : v ∉ ws)
      (hne : Dict.find? v.1 m'.canonical ≠ some v.2) :
      (settleAll { arena := a } (earlier ++ (us ++ [v]))).content? v.1 =
        some (m'.arena.body v.2) := by
    have hm'' : m' = m.settleAll (us ++ v :: ws) := by rw [← hsplit, ← hlast.settleAll]
    rw [settleAll_append, ← hearlier.settleAll, hm'']
    rw [hm''] at hne
    exact content_eq_body_of_last_visit ha hm (hsplit ▸ howns₂) hnot hne
  unfold SettledLast
  rw [hend]
  constructor
  · intro hagree us v ws hsplit hnot hne
    have hmem : v ∈ last := by simp [hsplit]
    obtain ⟨us', b, ws', hsplit', hnone⟩ := exists_last_of_name ⟨v, hmem, rfl⟩
    have hmem' : (v.1, b) ∈ last := by simp [hsplit']
    have hreached : ∀ w ∈ last, ∃ id, Below m'.arena root id ∧ a.block? id = some w := by
      refine hlast.below_of_visited ha hm (fun id hid => ?_) fun c hc => ?_
      · cases List.mem_singleton.1 hid
      · cases List.mem_singleton.1 hc
        exact ⟨hroot, fun id hid => .direct hid⟩
    obtain ⟨id, hid, hblock⟩ := hreached v hmem
    obtain ⟨id', hid', hblock'⟩ := hreached _ hmem'
    rw [← hm'.block?] at hblock hblock'
    have hsame := hagree hid hid' hblock hblock'
    have hcontent := content_eq_body_of_last ha hm (hsplit' ▸ howns₂) hnone
    rw [← hsplit', ← hlast.settleAll] at hcontent
    rw [hsettled hsplit hnot hne, hsame, hcontent]
  · intro hlate id id' x b b' hid hid' hblock hblock'
    -- either block has the content that its name has in the end
    have hcontent {c : BodyId} (hmem : (x, c) ∈ last) : m'.content? x = some (m'.arena.body c) := by
      by_cases hcanonical : Dict.find? x m'.canonical = some c
      · simp [content?, hcanonical]
      · obtain ⟨us, ws, hsplit, hnot⟩ := exists_last_of_mem hmem
        rw [← hlate us (x, c) ws hsplit hnot hcanonical]
        exact hsettled hsplit hnot hcanonical
    have hleft := hcontent (hvisited hid hblock)
    have hright := hcontent (hvisited hid' hblock')
    exact Option.some.inj (hleft.symm.trans hright)

end Agree

end Merging

namespace Arena

section Part

variable {a : Arena}

/-- A handle of some nodes is that of one of them, and the blocks in it are in the nodes. -/
theorem exists_of_mem_nodesAt {ids : List NodeId} {nodes : List Node} (hn : NodesAt a ids nodes)
    {id : NodeId} (hid : id ∈ ids) : ∃ n ∈ nodes, NodeAt a id n ∧
      ∀ v ∈ blocksAt a id n, v ∈ blocksAtAll a ids nodes := by
  induction nodes generalizing ids with
  | nil =>
    rw [(nodesAt_nil a ids).1 hn] at hid
    cases hid
  | cons n rest ih =>
    simp only [NodesAt] at hn
    obtain ⟨i, others, rfl, hn, hrest⟩ := hn
    simp only [blocksAtAll, List.mem_append]
    rcases List.mem_cons.1 hid with rfl | hid
    · exact ⟨n, List.mem_cons_self .., hn, fun v hv => .inl hv⟩
    · obtain ⟨n', hmem, hn', hblocks⟩ := ih hrest hid
      exact ⟨n', List.mem_cons_of_mem _ hmem, hn', fun v hv => .inr (hblocks v hv)⟩

/-- A body of some bodies is stored with its nodes, and the blocks in it are in the bodies. -/
theorem exists_of_mem_bodiesAt {ids : List BodyId} {bodies : List (List Node)}
    (hn : BodiesAt a ids bodies) {b : BodyId} (hb : b ∈ ids) :
    ∃ body ∈ bodies, NodesAt a (a.body b) body ∧
      ∀ v ∈ blocksAtAll a (a.body b) body, v ∈ blocksAtBodies a ids bodies := by
  induction bodies generalizing ids with
  | nil =>
    rw [(bodiesAt_nil a ids).1 hn] at hb
    cases hb
  | cons body rest ih =>
    simp only [BodiesAt] at hn
    obtain ⟨i, others, rfl, hbody, hrest⟩ := hn
    simp only [blocksAtBodies, List.mem_append]
    rcases List.mem_cons.1 hb with rfl | hb
    · exact ⟨body, List.mem_cons_self .., hbody, fun v hv => .inl hv⟩
    · obtain ⟨body', hmem, hbody', hblocks⟩ := ih hrest hb
      exact ⟨body', List.mem_cons_of_mem _ hmem, hbody', fun v hv => .inr (hblocks v hv)⟩

/-- A body of a node is one of its tag, and the blocks in it are in the node. -/
theorem exists_of_mem_children {id : NodeId} {n : Node} (hn : NodeAt a id n) {b : BodyId}
    (hb : b ∈ a.children id) : ∃ head bodies t, n = .tag head bodies t ∧
      ∃ body ∈ bodies, NodesAt a (a.body b) body ∧
        ∀ v ∈ blocksAtAll a (a.body b) body, v ∈ blocksAt a id n := by
  cases n with
  | literal t => simp [children_of_cell? hn, Cell.bodies] at hb
  | output o t => simp [children_of_cell? hn, Cell.bodies] at hb
  | tag head bodies t =>
    obtain ⟨ids, hcell, hbodies⟩ := hn
    rw [children_of_cell? hcell] at hb
    obtain ⟨body, hbody, hinner, hblocks⟩ := exists_of_mem_bodiesAt hbodies hb
    refine ⟨head, bodies, t, rfl, body, hbody, hinner, fun v hv => ?_⟩
    simp only [blocksAt, children_of_cell? hcell, List.mem_append]
    exact .inr (hblocks v hv)

/-- A node that is reached from stored trees is one that they hold, with blocks that are among theirs.
-/
theorem exists_holds_of_below {root : BodyId} {nodes : List Node}
    (hn : NodesAt a (a.body root) nodes) {id : NodeId} (hid : a.Below root id) :
    ∃ n, NodeAt a id n ∧ Node.Holds nodes n ∧
      ∀ v ∈ blocksAt a id n, v ∈ blocksAtAll a (a.body root) nodes := by
  induction hid with
  | direct hid =>
    obtain ⟨n, hmem, hn, hblocks⟩ := exists_of_mem_nodesAt hn hid
    exact ⟨n, hn, .here hmem, hblocks⟩
  | deep _ hb hid ih =>
    obtain ⟨outer, houter, hin, hblocks⟩ := ih
    obtain ⟨head, bodies, t, rfl, body, hbody, hnodes, hinner⟩ := exists_of_mem_children houter hb
    obtain ⟨n, hmem, hn, hmore⟩ := exists_of_mem_nodesAt hnodes hid
    exact ⟨n, hn, .inside hin hbody hmem, fun v hv => hblocks v (hinner v (hmore v hv))⟩

/-- A block that is reached from stored trees is one of theirs. -/
theorem mem_blocksAtAll_of_below {root : BodyId} {nodes : List Node}
    (hn : NodesAt a (a.body root) nodes) {id : NodeId} (hid : Below a root id)
    {v : String × BodyId} (hblock : a.block? id = some v) :
    v ∈ blocksAtAll a (a.body root) nodes := by
  obtain ⟨n, hn, -, hblocks⟩ := exists_holds_of_below hn hid
  refine hblocks v ?_
  cases n with
  | literal t => simp [block?_of_cell? hn, Cell.block?] at hblock
  | output o t => simp [block?_of_cell? hn, Cell.block?] at hblock
  | tag head bodies t => simp [blocksAt, hblock]

end Part

end Arena

namespace Template

open Arena Merging

/-- The blocks of one name in a resolved template agree exactly when no block of the last layout
misses what its name takes in after the walk of the merge was at the block last. -/
theorem resolve_blocksAgree_iff {setup : Setup} {name : Option String} {tokens : List Token}
    {t : Template} (ht : (resolve setup name tokens).1 = .ok t) :
    ∃ levels a earlier last, readChain setup name tokens = .ok levels ∧
      MergeLog levels a earlier last ∧ (t.BlocksAgree ↔ SettledLast a earlier last) := by
  rw [resolve_eq] at ht
  obtain ⟨levels, hread, ht⟩ := ok_of_bind_eq_ok ht
  have hlevels := readChain_spec hread
  obtain ⟨a, earlier, last, hlog, harena⟩ := exists_mergeLog hlevels.ne_nil ht
  refine ⟨levels, a, earlier, last, hread, hlog, ?_⟩
  have hroot := (mergeLevels_cases ht).1
  have hspec := storeLevels_spec forest_empty hlevels.shaped
  unfold BlocksAgree
  cases hlog with
  | single hstored =>
    -- a template without a layout has every name once
    rw [hstored] at hroot hspec
    replace harena : t.arena = a := harena
    replace hroot : t.root = _ := hroot
    rw [harena, hroot]
    refine ⟨fun _ us v ws hsplit => ?_, fun _ => ?_⟩
    · simp at hsplit
    · intro id id' x b b' hid hid' hblock hblock'
      cases hspec.levelsAt with
      | @cons _ nodes _ _ hnodes hrest =>
        cases hrest
        have hnames := hlevels.names_nodup nodes (List.mem_cons_self ..)
        rw [← map_fst_blocksAtAll (hlevels.shaped nodes (List.mem_cons_self ..)) hnodes.2] at hnames
        have hsame := List.inj_on_of_nodup_map hnames (mem_blocksAtAll_of_below hnodes.2 hid hblock)
          (mem_blocksAtAll_of_below hnodes.2 hid' hblock') rfl
        rw [(Prod.mk.inj hsame).2]
  | chain hstored hlower hearlier hlast =>
    rw [hstored] at hroot hspec
    rw [List.getLast?_concat, Option.getD_some] at hroot
    have ha := hspec.forest
    have hfree := freeBody_of_levelsAt hspec.levelsAt _
      (List.mem_append_right _ (List.mem_singleton_self _))
    rw [settleAll_append, ← hearlier.settleAll, ← hlast.settleAll] at harena
    rw [harena, hroot]
    exact agree_iff_settledLast ha (ha.not_owns_of_free hfree) hearlier hlast

/-- Layouts that share the blocks `a` and `b`, where only the level in between nests them. -/
def nestingLevel : Setup where
  sources := [
    ("mid.liquid", extendsSource "root" (blockSource "a" (blockSource "b" ("M" ++ superSource)))),
    ("root.liquid", blockSource "a" "" ++ blockSource "b" "R")]

/-- The tokens of a template that adds to what its layouts have for the block `b`. -/
def addingToNested : List Token :=
  tokensOf (extendsSource "mid" (blockSource "b" ("L" ++ superSource)))

/-- The criterion applies where a level in between nests the block that the template adds to. -/
theorem resolve_blocksAgree_iff_addingToNested : ∃ t,
    (resolve nestingLevel none addingToNested).1 = .ok t ∧
      ∃ levels a earlier last, readChain nestingLevel none addingToNested = .ok levels ∧
        MergeLog levels a earlier last ∧ (t.BlocksAgree ↔ SettledLast a earlier last) := by
  have hcheck : (resolve nestingLevel none addingToNested).1.toOption.map
      (fun t => t.arena.bodies.size) = some 8 := by
    decide +kernel
  obtain ⟨t, ht, -⟩ := exists_ok_of_map_toOption hcheck
  exact ⟨t, ht, resolve_blocksAgree_iff ht⟩

/-- Under the block `a` the block `b` was merged before the layout added to it, and there it keeps
its mark. -/
theorem addingToNested_not_blocksAgree : ∃ levels t,
    readChain nestingLevel none addingToNested = .ok levels ∧ Node.AcyclicNesting levels ∧
      (resolve nestingLevel none addingToNested).1 = .ok t ∧ ¬ t.BlocksAgree := by
  have hnestings : (readChain nestingLevel none addingToNested).toOption.map
      (fun levels => levels.flatMap Node.nestingsAll) = some [("a", "b")] := by
    decide +kernel
  have hcheck : (resolve nestingLevel none addingToNested).1.toOption.map
      (fun t => decide (t.arena.body t.root = [⟨7⟩, ⟨9⟩] ∧ t.arena.children ⟨7⟩ = [⟨5⟩] ∧
        t.arena.body ⟨5⟩ = [⟨5⟩] ∧ t.arena.block? ⟨5⟩ = some ("b", ⟨2⟩) ∧
        t.arena.block? ⟨9⟩ = some ("b", ⟨6⟩) ∧ t.arena.body ⟨2⟩ = [⟨0⟩, ⟨3⟩, ⟨4⟩] ∧
        t.arena.body ⟨6⟩ = [⟨0⟩, ⟨3⟩, ⟨8⟩])) = some true := by
    decide +kernel
  obtain ⟨levels, hread, hnestings⟩ := exists_ok_of_map_toOption hnestings
  obtain ⟨t, ht, hcheck⟩ := exists_ok_of_map_toOption hcheck
  rw [decide_eq_true_eq] at hcheck
  obtain ⟨hroot, hchildren, hbody, hinner, houter, hbody₂, hbody₆⟩ := hcheck
  refine ⟨levels, t, hread, ?_, ht, fun hagree => ?_⟩
  · refine Node.acyclicNesting_of_no_path ?_
    rw [hnestings]
    decide
  · have ha : t.arena.Below t.root ⟨7⟩ := .direct (by simp [hroot])
    have hnested : t.arena.Below t.root ⟨5⟩ := by
      refine .deep ha (b := ⟨5⟩) ?_ ?_
      · rw [hchildren]
        exact List.mem_cons_self ..
      · rw [hbody]
        exact List.mem_cons_self ..
    have hdirect : t.arena.Below t.root ⟨9⟩ := .direct (by simp [hroot])
    have hsame := hagree hnested hdirect hinner houter
    rw [hbody₂, hbody₆] at hsame
    revert hsame
    decide

end Template

end Stencil
