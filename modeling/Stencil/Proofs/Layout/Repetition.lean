import Stencil.Proofs.Layout.Agreement

/-!
# Whether a body repeats a node

A block that is walked over again is taken for merged when it holds the content of its name.  When
the content has grown in between, what the block holds is an older copy, and the copy is merged into
the content once more (`Merging.Repeats`, `Merging.Repeats.mem`).  This is the only way in which a
node other than a mark comes to stand in a body twice (`Template.resolve_nodup_iff`): such nodes are
never taken away again (`Merging.count_content_settleAll`), and without such a merge none is added
to a body that has it (`Merging.count_le_one_settleAll`).
-/

set_option autoImplicit false

namespace Stencil

namespace Merging

open Arena

/-- Whether merging a block puts a node that is no mark into a content that holds the node already.
-/
def Repeats (a : Arena) (m : Merging) (v : String × BodyId) (id : NodeId) : Prop :=
  ∃ content, m.content? v.1 = some content ∧ m.arena.body v.2 ≠ content ∧
    content.any a.isBlockSuper = true ∧ a.isBlockSuper id = false ∧
      id ∈ m.arena.body v.2 ∧ id ∈ content

section Repetition

variable {a : Arena} {m : Merging} {vs : List (String × BodyId)}

/-- A node that is no mark is in the content of a name no less often than before. -/
theorem count_le_count_blend {isMark : NodeId → Bool} {id : NodeId} (hmark : isMark id = false)
    (kids content : List NodeId) :
    content.count id ≤ (blend isMark kids (some content)).count id := by
  simp only [blend]
  split
  · exact Nat.le_refl _
  · rw [count_substFirst hmark]
    exact Nat.le_add_right ..

/-- No name loses a node that is no mark. -/
theorem count_content_settleAll (ha : Forest a) (hm : Over a m) (hvs : ∀ v ∈ vs, Owns a v.1 v.2)
    {x : String} {c : List NodeId} (hc : m.content? x = some c) {id : NodeId}
    (hmark : a.isBlockSuper id = false) :
    ∃ c', (m.settleAll vs).content? x = some c' ∧ c.count id ≤ c'.count id := by
  induction vs generalizing m c with
  | nil => exact ⟨c, hc, Nat.le_refl _⟩
  | cons v vs ih =>
    have hv := hvs v (List.mem_cons_self ..)
    have hrest : ∀ w ∈ vs, Owns a w.1 w.2 := fun w hw => hvs w (List.mem_cons_of_mem _ hw)
    have hstep := settle_spec ha hm hv
    rw [settleAll_cons]
    by_cases hx : x = v.1
    · subst hx
      have hcontent := hstep.content_eq
      rw [hc] at hcontent
      obtain ⟨c', hc', hle⟩ := ih hstep.isOver hrest hcontent
      have hfirst := count_le_count_blend hmark (m.arena.body v.2) c
      exact ⟨c', hc', Nat.le_trans hfirst hle⟩
    · exact ih hstep.isOver hrest ((hstep.content_of_ne ha hm hv hx).trans hc)

/-- The content of a name stands in a body. -/
theorem exists_body_of_content {x : String} {c : List NodeId} (h : m.content? x = some c) :
    ∃ b, m.arena.body b = c := by
  obtain ⟨b, -, hb⟩ := Option.map_eq_some_iff.1 h
  exact ⟨b, hb⟩

/-- What a body holds was stored there or in the body of a block that was merged. -/
theorem mem_body_or_merged (ha : Forest a) (hvs : ∀ v ∈ vs, Owns a v.1 v.2) {b : BodyId}
    {id : NodeId} (h : id ∈ (settleAll { arena := a } vs).arena.body b) :
    id ∈ a.body b ∨ ∃ w ∈ vs, id ∈ a.body w.2 := by
  induction vs using List.reverseRecOn generalizing b with
  | nil => exact .inl h
  | append_singleton us v ih =>
    have hus : ∀ w ∈ us, Owns a w.1 w.2 := fun w hw => hvs w (List.mem_append_left _ hw)
    have hstep := settle_spec ha ((Over.start a).settleAll ha hus) (hvs v (by simp))
    rw [settleAll_append, settleAll_cons, settleAll_nil] at h
    rcases hstep.body_eq_or b with heq | heq
    · right
      rw [heq, Option.some.inj (hstep.own_eq.symm.trans hstep.content_eq)] at h
      rcases mem_of_mem_blend h with hid | ⟨content, hcontent, hid⟩
      · rcases ih hus hid with hid | ⟨w, hw, hid⟩
        · exact ⟨v, by simp, hid⟩
        · exact ⟨w, List.mem_append_left _ hw, hid⟩
      · obtain ⟨target, hfind, rfl⟩ := Option.map_eq_some_iff.1 hcontent
        have htarget := mem_of_canonical_settleAll ha hus hfind
        rcases ih hus hid with hid | ⟨w, hw, hid⟩
        · exact ⟨_, List.mem_append_left _ htarget, hid⟩
        · exact ⟨w, List.mem_append_left _ hw, hid⟩
    · rw [heq] at h
      rcases ih hus h with hid | ⟨w, hw, hid⟩
      · exact .inl hid
      · exact .inr ⟨w, List.mem_append_left _ hw, hid⟩

/-- Only a block that was merged before is merged into what it already gave. -/
theorem Repeats.mem (ha : Forest a) (hvs : ∀ w ∈ vs, Owns a w.1 w.2) {v : String × BodyId}
    (hv : Owns a v.1 v.2) {id : NodeId} (h : Repeats a (settleAll { arena := a } vs) v id) :
    v ∈ vs := by
  obtain ⟨content, hcontent, -, -, -, hkids, hid⟩ := h
  by_contra hnot
  have hunmerged : ∀ w ∈ vs, w.2 ≠ v.2 := by
    intro w hw e
    have hname : w.1 = v.1 := ha.owns_unique (hvs w hw) (e ▸ hv)
    exact hnot (Prod.ext hname e ▸ hw)
  have hfresh : v.2 ∉ vs.map Prod.snd := by
    intro hmem
    obtain ⟨w, hw, e⟩ := List.mem_map.1 hmem
    exact hunmerged w hw e
  -- the node would stand in the body of the block and in that of another one
  rw [body_settleAll_of_unmerged ha hvs hfresh] at hkids
  obtain ⟨target, hfind, rfl⟩ := Option.map_eq_some_iff.1 hcontent
  have htarget := mem_of_canonical_settleAll ha hvs hfind
  rcases mem_body_or_merged ha hvs hid with hid | ⟨w, hw, hid⟩
  · exact hunmerged _ htarget (ha.body_unique hid hkids)
  · exact hunmerged w hw (ha.body_unique hid hkids)

/-- A merge that repeats a node leaves a body that has the node twice in the end. -/
theorem exists_repeated_of_repeats (ha : Forest a) (hm : Over a m) {v : String × BodyId}
    (hv : Owns a v.1 v.2) (hvs : ∀ w ∈ vs, Owns a w.1 w.2) {id : NodeId} (h : Repeats a m v id) :
    ∃ b, 1 < ((m.settleAll (v :: vs)).arena.body b).count id := by
  obtain ⟨content, hcontent, hne, hany, hmark, hkids, hid⟩ := h
  have hstep := settle_spec ha hm hv
  have hnew := hstep.content_eq
  rw [hcontent, blend, if_neg hne] at hnew
  have htwice := count_substFirst hmark (m.arena.body v.2) content
  rw [if_pos hany] at htwice
  have hpos₁ := List.count_pos_iff.2 hkids
  have hpos₂ := List.count_pos_iff.2 hid
  obtain ⟨c', hc', hle⟩ := count_content_settleAll ha hstep.isOver hvs hnew hmark
  obtain ⟨b, hb⟩ := exists_body_of_content hc'
  refine ⟨b, ?_⟩
  rw [settleAll_cons, hb]
  omega

/-- A merge that repeats nothing adds no node other than a mark to a body that has it. -/
theorem count_le_one_settle (ha : Forest a) (hm : Over a m) {v : String × BodyId}
    (hv : Owns a v.1 v.2) {id : NodeId} (hmark : a.isBlockSuper id = false)
    (hbodies : ∀ b, (m.arena.body b).count id ≤ 1) (h : ¬ Repeats a m v id) (b : BodyId) :
    ((m.settle v.1 v.2).arena.body b).count id ≤ 1 := by
  have hstep := settle_spec ha hm hv
  rcases hstep.body_eq_or b with heq | heq
  · rw [heq, Option.some.inj (hstep.own_eq.symm.trans hstep.content_eq)]
    cases hc : m.content? v.1 with
    | none => exact hbodies v.2
    | some content =>
      obtain ⟨target, htarget⟩ := exists_body_of_content hc
      have hcount := hbodies target
      rw [htarget] at hcount
      simp only [blend]
      split
      · exact hcount
      · next hne =>
        rw [count_substFirst hmark]
        split
        · next hany =>
          have hown := hbodies v.2
          by_cases hkids : id ∈ m.arena.body v.2
          · -- the content does not have what the block has
            have hnot : id ∉ content := fun hid => h ⟨content, hc, hne, hany, hmark, hkids, hid⟩
            rw [List.count_eq_zero.2 hnot]
            omega
          · rw [List.count_eq_zero.2 hkids]
            omega
        · exact hcount
  · rw [heq]
    exact hbodies b

/-- If no block repeats a node, merging blocks leaves it once in every body. -/
theorem count_le_one_settleAll (ha : Forest a) (hm : Over a m) (hvs : ∀ v ∈ vs, Owns a v.1 v.2)
    {id : NodeId} (hmark : a.isBlockSuper id = false)
    (hbodies : ∀ b, (m.arena.body b).count id ≤ 1)
    (h : ∀ us v ws, vs = us ++ v :: ws → ¬ Repeats a (m.settleAll us) v id) (b : BodyId) :
    ((m.settleAll vs).arena.body b).count id ≤ 1 := by
  induction vs generalizing m with
  | nil => exact hbodies b
  | cons v vs ih =>
    have hv := hvs v (List.mem_cons_self ..)
    have hstep := settle_spec ha hm hv
    have hnext := count_le_one_settle ha hm hv hmark hbodies (h [] v vs rfl)
    rw [settleAll_cons]
    have hrest : ∀ w ∈ vs, a.Owns w.1 w.2 := fun w hw => hvs w (List.mem_cons_of_mem _ hw)
    refine ih hstep.isOver hrest hnext fun us w ws hsplit => ?_
    exact h (v :: us) w ws (by rw [hsplit, List.cons_append])

/-- After merging some blocks of a forest no body has a node twice exactly when no block that was
merged again repeated a node, and no body has a mark twice. -/
theorem nodup_settleAll_iff (ha : Forest a) (hvs : ∀ v ∈ vs, Owns a v.1 v.2) :
    (∀ b, ((settleAll { arena := a } vs).arena.body b).Nodup) ↔
      (∀ us v ws, vs = us ++ v :: ws → v ∈ us →
        ∀ id, ¬ Repeats a (settleAll { arena := a } us) v id) ∧
      ∀ b, (((settleAll { arena := a } vs).arena.body b).filter a.isBlockSuper).Nodup := by
  constructor
  · intro hnodup
    refine ⟨fun us v ws hsplit _ id hrepeats => ?_, fun b => (hnodup b).filter _⟩
    subst hsplit
    have hus : ∀ w ∈ us, Owns a w.1 w.2 := fun w hw => hvs w (List.mem_append_left _ hw)
    have hv : Owns a v.1 v.2 := hvs v (by simp)
    have hws : ∀ w ∈ ws, Owns a w.1 w.2 := fun w hw => hvs w (by simp [hw])
    have hm := (Over.start a).settleAll ha hus
    obtain ⟨b, hb⟩ := exists_repeated_of_repeats ha hm hv hws hrepeats
    have hle := List.nodup_iff_count_le_one.1 (hnodup b) id
    rw [settleAll_append] at hle
    omega
  · rintro ⟨hrepeats, hmarks⟩ b
    rw [List.nodup_iff_count_le_one]
    intro id
    cases hmark : a.isBlockSuper id with
    | true =>
      have hle := List.nodup_iff_count_le_one.1 (hmarks b) id
      rwa [List.count_filter hmark] at hle
    | false =>
      refine count_le_one_settleAll ha (Over.start a) hvs hmark (fun b => ?_) ?_ b
      · exact List.nodup_iff_count_le_one.1 (ha.nodup b) id
      · intro us v ws hsplit h
        have hus : ∀ w ∈ us, Owns a w.1 w.2 := fun w hw => hvs w (by simp [hsplit, hw])
        have hv : Owns a v.1 v.2 := hvs v (by simp [hsplit])
        exact hrepeats us v ws hsplit (h.mem ha hus hv) id h

end Repetition

end Merging

namespace Template

open Arena Merging

/-- No body of a resolved template has a node twice exactly when no block that the merge reached
again repeated a node other than a mark, and no body is left with a mark twice. -/
theorem resolve_nodup_iff {setup : Setup} {name : Option String} {tokens : List Token}
    {t : Template} (ht : (resolve setup name tokens).1 = .ok t) :
    ∃ levels a earlier last, readChain setup name tokens = .ok levels ∧
      MergeLog levels a earlier last ∧ ((∀ b, (t.arena.body b).Nodup) ↔
        (∀ us v ws, earlier ++ last = us ++ v :: ws → v ∈ us →
          ∀ id, ¬ Repeats a (settleAll { arena := a } us) v id) ∧
        ∀ b, ((t.arena.body b).filter t.arena.isBlockSuper).Nodup) := by
  rw [resolve_eq] at ht
  obtain ⟨levels, hread, ht⟩ := ok_of_bind_eq_ok ht
  have hlevels := readChain_spec hread
  obtain ⟨a, earlier, last, hlog, harena⟩ := exists_mergeLog hlevels.ne_nil ht
  have ha : Forest a := hlog.arena_eq ▸ (storeLevels_spec forest_empty hlevels.shaped).forest
  have howns := hlog.owns ha
  have hover := (Over.start a).settleAll ha howns
  refine ⟨levels, a, earlier, last, hread, hlog, ?_⟩
  rw [harena, hover.isBlockSuper]
  exact nodup_settleAll_iff ha howns

/-- Layouts that share the blocks `a` and `b`, where the first one nests them and the next one adds
to the block `b` alone. -/
def nestingFirst : Setup where
  sources := [
    ("one.liquid", extendsSource "two" (blockSource "a" (blockSource "b" ("M" ++ superSource)))),
    ("two.liquid", extendsSource "root" (blockSource "b" ("N" ++ superSource))),
    ("root.liquid", blockSource "a" "" ++ blockSource "b" "R")]

/-- The tokens of a template that adds to what these layouts have for the block `b`. -/
def addingToFirst : List Token :=
  tokensOf (extendsSource "one" (blockSource "b" ("L" ++ superSource)))

/-- The criterion applies where the template adds to a block that the first layout nests. -/
theorem resolve_nodup_iff_addingToFirst : ∃ t,
    (resolve nestingFirst none addingToFirst).1 = .ok t ∧
      ∃ levels a earlier last, readChain nestingFirst none addingToFirst = .ok levels ∧
        MergeLog levels a earlier last ∧ ((∀ b, (t.arena.body b).Nodup) ↔
          (∀ us v ws, earlier ++ last = us ++ v :: ws → v ∈ us →
            ∀ id, ¬ Repeats a (settleAll { arena := a } us) v id) ∧
          ∀ b, ((t.arena.body b).filter t.arena.isBlockSuper).Nodup) := by
  have hcheck : (resolve nestingFirst none addingToFirst).1.toOption.map
      (fun t => t.arena.cells.size) = some 13 := by
    decide +kernel
  obtain ⟨t, ht, -⟩ := exists_ok_of_map_toOption hcheck
  exact ⟨t, ht, resolve_nodup_iff ht⟩

/-- The layout leads back to the block inside the block `a`, which holds an older copy of the
content by then, and the copy is merged into the content again. -/
theorem addingToFirst_not_nodup : ∃ levels t,
    readChain nestingFirst none addingToFirst = .ok levels ∧ Node.AcyclicNesting levels ∧
      (resolve nestingFirst none addingToFirst).1 = .ok t ∧ ¬ ∀ b, (t.arena.body b).Nodup := by
  have hnestings : (readChain nestingFirst none addingToFirst).toOption.map
      (fun levels => levels.flatMap Node.nestingsAll) = some [("a", "b")] := by
    decide +kernel
  have hcheck : (resolve nestingFirst none addingToFirst).1.toOption.map
      (fun t => t.arena.body ⟨0⟩) = some [⟨0⟩, ⟨3⟩, ⟨7⟩, ⟨0⟩, ⟨3⟩, ⟨11⟩] := by
    decide +kernel
  obtain ⟨levels, hread, hnestings⟩ := exists_ok_of_map_toOption hnestings
  obtain ⟨t, ht, hbody⟩ := exists_ok_of_map_toOption hcheck
  refine ⟨levels, t, hread, ?_, ht, fun hnodup => ?_⟩
  · refine Node.acyclicNesting_of_no_path ?_
    rw [hnestings]
    decide
  · have hzero := hnodup ⟨0⟩
    rw [hbody] at hzero
    revert hzero
    decide

end Template

end Stencil
