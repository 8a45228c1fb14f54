import Stencil.Proofs.Arena.Depth
import Stencil.Proofs.Layout.Override
import Stencil.Proofs.Layout.Repetition

/-!
# Merges that end

A chain whose merge ends has a template (`Template.exists_ok_of_mergeLog`): the bounds on the depth
of the walk and of the tree are never what makes a chain fail.  When a walk is at its end,
every body that it has been at is grounded (`Merging.Run.grounded`), since a block that was merged
last under its name leads only to what the walk was at afterwards, and the other blocks of the name
hold no more than it does.  The walk itself went along the leads of the arena that it left
(`Merging.Leg.leads`), so the bodies that it was inside of at one time are all different.
-/

set_option autoImplicit false

namespace Stencil

namespace Merging

open Arena

section Grounded

variable {a : Arena} {tasks : List Task} {m m' : Merging} {vs : List (String × BodyId)}

/-- When the content of a name has the nodes of one of its blocks, marks aside, it has them ever
after. -/
theorem mem_content_settleAll (ha : Forest a) (hm : Over a m) (hvs : ∀ v ∈ vs, Owns a v.1 v.2)
    {x : String} {own : BodyId} (hown : Owns a x own) {c : List NodeId} (hc : m.content? x = some c)
    (hsub : ∀ id ∈ m.arena.body own, a.isBlockSuper id = false → id ∈ c) :
    ∃ c', (m.settleAll vs).content? x = some c' ∧
      ∀ id ∈ (m.settleAll vs).arena.body own, a.isBlockSuper id = false → id ∈ c' := by
  induction vs generalizing m c with
  | nil => exact ⟨c, hc, hsub⟩
  | cons v vs ih =>
    have hv := hvs v (List.mem_cons_self ..)
    have hrest : ∀ w ∈ vs, Owns a w.1 w.2 := fun w hw => hvs w (List.mem_cons_of_mem _ hw)
    have hstep := settle_spec ha hm hv
    rw [settleAll_cons]
    by_cases hx : x = v.1
    · subst hx
      have hcontent := hstep.content_eq
      rw [hc] at hcontent
      refine ih hstep.isOver hrest hcontent fun id hid hmark => ?_
      rcases hstep.body_eq_or own with heq | heq
      · rw [heq, Option.some.inj (hstep.own_eq.symm.trans hcontent)] at hid
        exact hid
      · rw [heq] at hid
        exact mem_blend_of_mem hmark _ (hsub id hid hmark)
    · refine ih hstep.isOver hrest ((hstep.content_of_ne ha hm hv hx).trans hc) ?_
      rw [hstep.body_of_ne ha hm hv hx hown]
      exact hsub

/-- A node with bodies is no mark. -/
theorem isBlockSuper_of_mem_children {id : NodeId} {b : BodyId} (hb : b ∈ a.children id) :
    a.isBlockSuper id = false := by
  by_contra hmark
  rw [children_of_isBlockSuper (Bool.not_eq_false _ ▸ hmark)] at hb
  cases hb

/-- At the end of a walk every body that it has been at is grounded: the bodies of its tasks and of
the blocks it merged, and those of the nodes of its tasks. -/
theorem Run.grounded (ha : Forest a) (h : Run tasks m vs m') (hm : Over a m)
    (hplain : ∀ b, .body b ∈ tasks → ∀ x, ¬ Owns a x b) :
    (∀ id, .node id ∈ tasks → ∀ c ∈ a.children id, m'.arena.Grounded c) ∧
      (∀ b, .body b ∈ tasks → m'.arena.Grounded b) ∧ ∀ v ∈ vs, m'.arena.Grounded v.2 := by
  have hm' : Over a m' := h.settleAll ▸ hm.settleAll ha (h.owns ha hm)
  -- a body is grounded when all bodies of its nodes are
  have hintro {b : BodyId}
      (hb : ∀ id ∈ m'.arena.body b, ∀ c ∈ a.children id, m'.arena.Grounded c) :
      m'.arena.Grounded b := by
    refine Acc.intro b fun c hc => ?_
    obtain ⟨id, hid, hchild⟩ := hc
    rw [hm'.children] at hchild
    exact hb id hid c hchild
  induction h with
  | done => simp
  | @body b rest m m' vs _ ih =>
    have hb := hplain b (List.mem_cons_self ..)
    obtain ⟨hnodes, hbodies, hmerged⟩ := ih hm (fun c hc => by
      refine hplain c (List.mem_cons_of_mem _ ?_)
      simpa using hc) hm' hintro
    refine ⟨fun id hid => ?_, fun c hc => ?_, hmerged⟩
    · refine hnodes id (List.mem_append_right _ ?_)
      simpa using hid
    · rcases List.mem_cons.1 hc with hc | hc
      · cases hc
        refine hintro fun id hid => hnodes id (List.mem_append_left _ ?_)
        rw [hm'.plain hb, ← hm.plain hb] at hid
        exact List.mem_map_of_mem hid
      · exact hbodies c (List.mem_append_right _ hc)
  | @block id x own rest m m' vs hblock hrun ih =>
    rw [hm.block?] at hblock
    have hown : Owns a x own := ⟨id, hblock⟩
    have hstep := settle_spec ha hm hown
    have howns := hrun.owns ha hstep.isOver
    have hend := hrun.settleAll
    obtain ⟨hnodes, hbodies, hmerged⟩ := ih hstep.isOver (fun c hc => by
      refine hplain c (List.mem_cons_of_mem _ ?_)
      simpa using hc) hm' hintro
    have hself : m'.arena.Grounded own := by
      by_cases hagain : ∃ v ∈ vs, v.1 = x
      · -- the block of the name that is merged last holds what this one holds in the end
        obtain ⟨us, b, ws, rfl, hlast⟩ := exists_last_of_name hagain
        have hb : m'.arena.Grounded b := hmerged (x, b) (by simp)
        have hcontent := content_eq_body_of_last ha hstep.isOver howns hlast
        obtain ⟨c, hc, hsub⟩ := mem_content_settleAll ha hstep.isOver howns hown hstep.own_eq
          fun _ hid _ => hid
        rw [← hend] at hcontent hc hsub
        cases hc.symm.trans hcontent
        refine hintro fun id hid d hd => hb.leads ⟨id, ?_, by rwa [hm'.children]⟩
        exact hsub id hid (isBlockSuper_of_mem_children hd)
      · have hbody : m'.arena.body own = (m.settle x own).arena.body own := by
          rw [hend]
          exact body_settleAll_of_ne ha hstep.isOver howns hown
            fun v hv e => hagain ⟨v, hv, e.symm⟩
        refine hintro fun id hid => hnodes id (List.mem_append_left _ ?_)
        rw [hbody] at hid
        exact List.mem_map_of_mem hid
    refine ⟨fun i hi c hc => ?_, fun c hc => ?_, List.forall_mem_cons.2 ⟨hself, hmerged⟩⟩
    · rcases List.mem_cons.1 hi with hi | hi
      · cases hi
        rw [ha.single hblock, List.mem_singleton] at hc
        exact hc ▸ hself
      · exact hnodes i (List.mem_append_right _ hi) c hc
    · refine hbodies c (List.mem_append_right _ ?_)
      simpa using hc
  | @tag id rest m m' vs hblock _ ih =>
    rw [hm.block?] at hblock
    rw [hm.children] at ih
    obtain ⟨hnodes, hbodies, hmerged⟩ := ih hm (fun c hc => by
      rcases List.mem_append.1 hc with hc | hc
      · refine ha.not_owns_of_mem_children ?_ hblock
        simpa using hc
      · exact hplain c (List.mem_cons_of_mem _ hc)) hm' hintro
    refine ⟨fun i hi c hc => ?_, fun c hc => ?_, hmerged⟩
    · rcases List.mem_cons.1 hi with hi | hi
      · cases hi
        exact hbodies c (List.mem_append_left _ (List.mem_map_of_mem hc))
      · exact hnodes i (List.mem_append_right _ hi) c hc
    · refine hbodies c (List.mem_append_right _ ?_)
      simpa using hc

end Grounded

section Leg

variable {a g : Arena} {tasks ts rest : List Task} {m m' : Merging} {vs : List (String × BodyId)}

/-- A walk over some tasks and then over others is one after the other. -/
theorem Run.split (h : Run (ts ++ rest) m vs m') :
    ∃ us ws m₁, vs = us ++ ws ∧ Run ts m us m₁ ∧ Run rest m₁ ws m' := by
  generalize htasks : ts ++ rest = tasks at h
  induction h generalizing ts with
  | done =>
    obtain ⟨rfl, rfl⟩ := List.append_eq_nil_iff.1 htasks
    exact ⟨[], [], _, rfl, .done _, .done _⟩
  | @body b others m m' vs h ih =>
    cases ts with
    | nil =>
      rw [List.nil_append] at htasks
      subst htasks
      exact ⟨[], vs, m, rfl, .done _, .body h⟩
    | cons t ts =>
      rw [List.cons_append, List.cons.injEq] at htasks
      obtain ⟨rfl, rfl⟩ := htasks
      obtain ⟨us, ws, m₁, hvs, hfirst, hrest⟩ := ih (List.append_assoc ..)
      exact ⟨us, ws, m₁, hvs, .body hfirst, hrest⟩
  | @block id x own others m m' vs hblock h ih =>
    cases ts with
    | nil =>
      rw [List.nil_append] at htasks
      subst htasks
      exact ⟨[], _, m, rfl, .done _, .block hblock h⟩
    | cons t ts =>
      rw [List.cons_append, List.cons.injEq] at htasks
      obtain ⟨rfl, rfl⟩ := htasks
      obtain ⟨us, ws, m₁, rfl, hfirst, hrest⟩ := ih (List.append_assoc ..)
      exact ⟨(x, own) :: us, ws, m₁, rfl, .block hblock hfirst, hrest⟩
  | @tag id others m m' vs hblock h ih =>
    cases ts with
    | nil =>
      rw [List.nil_append] at htasks
      subst htasks
      exact ⟨[], vs, m, rfl, .done _, .tag hblock h⟩
    | cons t ts =>
      rw [List.cons_append, List.cons.injEq] at htasks
      obtain ⟨rfl, rfl⟩ := htasks
      obtain ⟨us, ws, m₁, hvs, hfirst, hrest⟩ := ih (List.append_assoc ..)
      exact ⟨us, ws, m₁, hvs, .tag hblock hfirst, hrest⟩

/-- A body whose nodes stay: it is no block, or it holds the content of its name. -/
def Steady (a : Arena) (m : Merging) (b : BodyId) : Prop :=
  (∀ x, ¬ Owns a x b) ∨ ∃ x, Owns a x b ∧ m.content? x = some (m.arena.body b)

/-- A part of a walk over the blocks of an arena that leaves another arena in the end. -/
def Leg (a g : Arena) (tasks : List Task) (m m' : Merging) : Prop :=
  Over a m ∧ ∃ vs ws, Run tasks m vs m' ∧ (∀ w ∈ ws, Owns a w.1 w.2) ∧
    g = (m'.settleAll ws).arena

/-- A part of a walk is split where its first tasks end. -/
theorem Leg.split (ha : Forest a) (h : Leg a g (ts ++ rest) m m') :
    ∃ m₁, Leg a g ts m m₁ ∧ Leg a g rest m₁ m' := by
  obtain ⟨hm, vs, ws, hrun, hws, hg⟩ := h
  obtain ⟨us, us', m₁, rfl, hfirst, hrest⟩ := hrun.split
  have hm₁ : Over a m₁ := hfirst.settleAll ▸ hm.settleAll ha (hfirst.owns ha hm)
  refine ⟨m₁, ⟨hm, us, us' ++ ws, hfirst, ?_, ?_⟩, hm₁, us', ws, hrest, hws, hg⟩
  · intro w hw
    rcases List.mem_append.1 hw with hw | hw
    · exact hrest.owns ha hm₁ w hw
    · exact hws w hw
  · rw [settleAll_append, ← hrest.settleAll]
    exact hg

/-- The nodes that the walk goes on with inside a steady body are there in the end, marks aside. -/
theorem Leg.leads (ha : Forest a) (h : Leg a g tasks m m') {b c : BodyId} (hb : Steady a m b)
    {id : NodeId} (hid : id ∈ m.arena.body b) (hc : c ∈ a.children id) : g.Leads b c := by
  obtain ⟨hm, vs, ws, hrun, hws, rfl⟩ := h
  have howns : ∀ v ∈ vs ++ ws, Owns a v.1 v.2 := by
    intro v hv
    rcases List.mem_append.1 hv with hv | hv
    · exact hrun.owns ha hm v hv
    · exact hws v hv
  have hover := hm.settleAll ha howns
  rw [hrun.settleAll, ← settleAll_append]
  refine ⟨id, ?_, by rwa [hover.children]⟩
  rcases hb with hplain | ⟨x, hown, hcontent⟩
  · rwa [hover.plain hplain, ← hm.plain hplain]
  · exact mem_body_settleAll ha hm howns hown (isBlockSuper_of_mem_children hc) hcontent hid hid

/-- What a walk over a list of tasks does is done by a function that does it for each of them. -/
theorem Leg.foldlM (ha : Forest a) {α : Type} {f : Merging → α → Option Merging} {task : α → Task}
    {l : List α} (hf : ∀ e ∈ l, ∀ m m', Leg a g [task e] m m' → f m e = some m')
    (h : Leg a g (l.map task) m m') : l.foldlM f m = some m' := by
  induction l generalizing m with
  | nil =>
    obtain ⟨-, _, _, hrun, -⟩ := h
    cases hrun
    rfl
  | cons e l ih =>
    rw [List.map_cons, ← List.singleton_append] at h
    obtain ⟨m₁, hfirst, hrest⟩ := h.split ha
    rw [List.foldlM_cons, hf e (List.mem_cons_self ..) m m₁ hfirst]
    exact ih (fun e he => hf e (List.mem_cons_of_mem _ he)) hrest

/-- A depth that is more than the bodies that a body leads to in the end is enough to merge below
the body. -/
theorem Leg.mergeIn (ha : Forest a)
    (hlt : ∀ {id c}, c ∈ g.children id → c.index < g.bodies.size) {n : Nat} {b : BodyId}
    (hb : Steady a m b) (hground : g.Grounded b) (hn : g.span b < n)
    (h : Leg a g [.body b] m m') : Merging.mergeIn n b m = some m' := by
  induction n generalizing b m m' with
  | zero => exact absurd hn (Nat.not_lt_zero _)
  | succ n ih =>
    rw [mergeIn_succ]
    obtain ⟨hm, vs, ws, hrun, hws, hg⟩ := h
    cases hrun with
    | body hrun =>
      rw [List.append_nil] at hrun
      have hnodes : Leg a g ((m.arena.body b).map .node) m m' := ⟨hm, vs, ws, hrun, hws, hg⟩
      have hless {id : NodeId} (hid : id ∈ m.arena.body b) {c : BodyId} (hc : c ∈ a.children id) :
          g.Grounded c ∧ g.span c < n := by
        have hleads := hnodes.leads ha hb hid hc
        have hspan := span_lt_of_leads hlt (hground.leads hleads) hleads
        exact ⟨hground.leads hleads, by omega⟩
      refine hnodes.foldlM ha fun id hid s s' hleg => ?_
      obtain ⟨hs, us, ws, hrun, hws, hg⟩ := hleg
      unfold mergeNode
      cases hrun with
      | @block _ x own _ _ _ us hblock hrun =>
        rw [List.append_nil] at hrun
        rw [hblock]
        rw [hs.block?] at hblock
        have hstep := settle_spec ha hs ⟨id, hblock⟩
        obtain ⟨hground, hspan⟩ := hless hid (ha.mem_children hblock)
        refine ih (.inr ⟨x, ⟨id, hblock⟩, hstep.own_eq⟩) hground hspan ?_
        refine ⟨hstep.isOver, us, ws, .body ?_, hws, hg⟩
        rw [List.append_nil]
        exact hrun
      | tag hblock hrun =>
        rw [List.append_nil, hs.children] at hrun
        rw [hblock, hs.children]
        rw [hs.block?] at hblock
        have hbodies : Leg a g ((a.children id).map .body) s s' := ⟨hs, us, ws, hrun, hws, hg⟩
        refine hbodies.foldlM ha fun c hc s s' hleg => ?_
        obtain ⟨hground, hspan⟩ := hless hid hc
        exact ih (.inl (ha.not_owns_of_mem_children hc hblock)) hground hspan hleg

end Leg

end Merging

namespace Template

open Arena Merging

/-- The root of a template is grounded: its tree was unfolded. -/
theorem grounded_root (t : Template) : t.arena.Grounded t.root :=
  grounded_of_unfold t.tree?_root

/-- A chain whose merge ends is merged to a template, and its arena is what the walk of the merge
made of the stored levels. -/
theorem exists_ok_of_mergeLog {levels : List (List Node)} (hread : LevelsRead levels) {a : Arena}
    {earlier last : List (String × BodyId)} (hlog : MergeLog levels a earlier last) :
    ∃ t, mergeLevels levels = .ok t ∧
      t.arena = (settleAll { arena := a } (earlier ++ last)).arena := by
  have hok : ∃ t, mergeLevels levels = .ok t := by
    have hspec := storeLevels_spec forest_empty hread.shaped
    cases hlog with
    | single hstored =>
      -- one level is not merged
      rw [hstored] at hspec
      have hone : levels.length = 1 := hspec.levelsAt.length_eq.symm
      obtain ⟨root, rfl⟩ := List.length_eq_one_iff.1 hone
      obtain ⟨t, ht, -⟩ := @mergeLevels_rewrites [] root hread (by simp)
      exact ⟨t, ht⟩
    | @chain lower root m m' _ _ hstored hlower hearlier hlast =>
      rw [hstored] at hspec
      have ha := hspec.forest
      have hstart := Over.start a
      have hrun : Run ((lower ++ [root]).map .body) { arena := a } (earlier ++ last) m' := by
        rw [List.map_append]
        exact hearlier.append hlast
      have howns := hrun.owns ha hstart
      have hend := hrun.settleAll
      have hover : Over a m' := hend ▸ hstart.settleAll ha howns
      have hplain : ∀ r ∈ lower ++ [root], ∀ x, ¬ Owns a x r := fun r hr =>
        ha.not_owns_of_free (freeBody_of_levelsAt hspec.levelsAt r hr)
      have hlt : ∀ {id c}, c ∈ m'.arena.children id → c.index < m'.arena.bodies.size := by
        intro id c hc
        rw [hover.children] at hc
        rw [hover.size]
        exact ha.body_lt hc
      have hground : ∀ r ∈ lower ++ [root], m'.arena.Grounded r := by
        refine fun r hr => (hrun.grounded ha hstart fun b hb => ?_).2.1 r (List.mem_map_of_mem hr)
        obtain ⟨c, hc, e⟩ := List.mem_map.1 hb
        cases e
        exact hplain b hc
      have hleg : Leg a m'.arena ((lower ++ [root]).map .body) { arena := a } m' :=
        ⟨hstart, _, [], hrun, by simp, rfl⟩
      have hmerge : mergeAll a (lower ++ [root]) = some m' := by
        refine hleg.foldlM ha fun r hr s s' h => ?_
        refine h.mergeIn ha hlt (.inl (hplain r hr)) (hground r hr) ?_
        rw [← hover.size]
        exact Nat.lt_succ_of_le (span_le hlt r)
      have hcell : ∀ {b id}, id ∈ m'.arena.body b → ∃ c, m'.arena.cell? id = some c := by
        intro b id hid
        have hstored : ∃ b, id ∈ a.body b := by
          rw [hend] at hid
          rcases mem_body_or_merged ha howns hid with hid | ⟨v, -, hid⟩
          · exact ⟨_, hid⟩
          · exact ⟨_, hid⟩
        obtain ⟨b, hid⟩ := hstored
        rw [hover.cell?]
        exact ⟨_, Array.getElem?_eq_getElem (ha.node_lt hid)⟩
      obtain ⟨nodes, htree⟩ := exists_tree hlt hcell (hground root (by simp))
      have hmany : ¬ (lower ++ [root]).length ≤ 1 := by
        have hpos := List.length_pos_iff.2 hlower
        rw [List.length_append, List.length_singleton]
        omega
      refine ⟨⟨m'.arena, root, nodes, htree⟩, ?_⟩
      simp only [mergeLevels, hstored, if_neg hmany, hmerge, List.getLast?_concat,
        Option.getD_some]
      exact ofArena_eq htree
  obtain ⟨t, ht⟩ := hok
  obtain ⟨a', earlier', last', hlog', harena⟩ := exists_mergeLog hread.ne_nil ht
  obtain ⟨rfl, rfl, rfl⟩ := hlog.unique hlog'
  exact ⟨t, ht, harena⟩

end Template

end Stencil
