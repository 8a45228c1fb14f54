import Stencil.Proofs.Layout.Override

/-!
# The content that a mark stands for

In a chain that nests no blocks, a block of the layout ends with the overlay of the bodies that the
levels have for its name (`Template.mergeLevels_overlay`).  A mark ought to stand for the content of
the nearest ancestor that defines the block.  The overlay has that content exactly when the marks
each meet the next body (`MarksMet`); a body with two marks takes its second one to the ancestor
after the next, or leaves it.
-/

set_option autoImplicit false

namespace Stencil

namespace Merging

open Arena

/-- A name that no block has, has no bodies. -/
theorem bodiesOf_of_ne {a : Arena} {x : String} {vs : List (String × BodyId)}
    (h : ∀ v ∈ vs, x ≠ v.1) : bodiesOf a x vs = [] := by
  rw [bodiesOf, List.map_eq_nil_iff, List.filter_eq_nil_iff]
  intro v hv
  simpa using (h v hv).symm

/-- Different bodies of a forest have no node in common. -/
theorem nodup_flatten_bodiesOf {a : Arena} (ha : Forest a) {vs : List (String × BodyId)}
    (h : (vs.map Prod.snd).Nodup) (x : String) : (bodiesOf a x vs).flatten.Nodup := by
  rw [List.nodup_flatten]
  constructor
  · intro body hbody
    obtain ⟨v, -, rfl⟩ := List.mem_map.1 hbody
    exact ha.nodup v.2
  · rw [bodiesOf, List.pairwise_map]
    refine List.Pairwise.filter _ ?_
    rw [List.Nodup, List.pairwise_map] at h
    refine h.imp fun {v w} hne id hv hw => ?_
    exact hne (ha.body_unique hv hw)

end Merging

namespace Template

open Arena Merging

/-- The blocks of the last of some levels with their bodies, as the levels are stored. -/
def layoutBlocks (levels : List (List Node)) : List (String × BodyId) :=
  let (a, roots) := storeLevels levels {}
  blocksAtAll a (a.body (roots.getLast?.getD ⟨0⟩)) (levels.getLast?.getD [])

/-- The bodies that some levels have for the blocks of a name, as they are stored, from the template
to its last layout. -/
def storedBodies (levels : List (List Node)) (x : String) : List (List NodeId) :=
  let (a, roots) := storeLevels levels {}
  bodiesOf a x (blocksOf a roots levels)

/-- Merging levels that nest no blocks merges their blocks in order. -/
theorem mergeAll_flat {a : Arena} {roots : List BodyId} {levels : List (List Node)}
    (hread : LevelsRead levels) (hflat : ∀ level ∈ levels, Node.nestingsAll level = [])
    (hstored : LevelsStoredAt {} a roots levels) :
    mergeAll a roots = some (settleAll { arena := a } (blocksOf a roots levels)) := by
  have hsize := hstored.size_bodies
  rw [show ({} : Arena).bodies.size = 0 from rfl, Nat.zero_add] at hsize
  refine mergeLevels_flat hstored.forest hstored.levelsAt hread.shaped hflat (Over.start a)
    (quiet_start hstored.levelsAt hread.shaped hflat) (fun v hv => List.mem_map_of_mem hv) ?_
  intro level hl
  rw [hsize]
  exact Node.outerHeightAll_add_le hread.shaped level hl

/-- In a chain that nests no blocks, every block of the layout ends with the overlay of the bodies
that the levels have for its name. -/
theorem mergeLevels_overlay {below : List (List Node)} {root : List Node}
    (hread : LevelsRead (below ++ [root]))
    (hflat : ∀ level ∈ below ++ [root], Node.nestingsAll level = []) {t : Template}
    (ht : mergeLevels (below ++ [root]) = .ok t) {v : String × BodyId}
    (hv : v ∈ layoutBlocks (below ++ [root])) :
    overlay t.arena.isBlockSuper (storedBodies (below ++ [root]) v.1) = some (t.arena.body v.2) ∧
      (storedBodies (below ++ [root]) v.1).flatten.Nodup := by
  have hstored := storeLevels_spec forest_empty hread.shaped
  have hcases := (mergeLevels_cases ht).2
  unfold layoutBlocks at hv
  unfold storedBodies
  generalize storeLevels (below ++ [root]) {} = stored at hstored hcases hv
  obtain ⟨a, roots⟩ := stored
  dsimp only at hstored hcases hv ⊢
  have ha := hstored.forest
  refine ⟨?_, nodup_flatten_bodiesOf ha hstored.fresh.nodup v.1⟩
  obtain ⟨lower, r, rfl, hlower, hlast⟩ := levelsAt_concat hstored.levelsAt
  cases hlast with
  | cons hr _ =>
    obtain ⟨-, hroot⟩ := hr
    simp only [List.getLast?_concat, Option.getD_some] at hv
    obtain ⟨x, b⟩ := v
    -- the name of the block is not used again in the layout
    have hnames := hread.names_nodup root (by simp)
    rw [← map_fst_blocksAtAll (hread.shaped root (by simp)) hroot] at hnames
    obtain ⟨us, ws, hsplit⟩ := List.append_of_mem hv
    rw [hsplit, List.map_append, List.map_cons] at hnames
    obtain ⟨-, hnames, hapart⟩ := List.nodup_append.1 hnames
    have hearlier : ∀ w ∈ us, x ≠ w.1 := by
      intro w hw e
      exact hapart w.1 (List.mem_map_of_mem hw) x (List.mem_cons_self ..) e.symm
    have hlater : ∀ w ∈ ws, x ≠ w.1 := by
      intro w hw e
      have hmem := List.mem_map_of_mem (f := Prod.fst) hw
      rw [← e] at hmem
      exact (List.nodup_cons.1 hnames).1 hmem
    have howns : ∀ w ∈ blocksOf a (lower ++ [r]) (below ++ [root]), Owns a w.1 w.2 :=
      fun w hw => owns_of_mem_blocksOf hw
    have hlaid := laid_settleAll ha howns hstored.fresh.nodup
    have hmerged := mergeAll_flat hread hflat hstored
    rcases hcases with ⟨hone, harena⟩ | ⟨-, m, hm, harena⟩
    · -- a single level has a single body for the name
      obtain rfl : lower = [] := by
        rw [List.length_append, List.length_singleton] at hone
        exact List.length_eq_zero_iff.1 (by omega)
      cases hlower
      have hlist : blocksOf a [r] [root] = us ++ (x, b) :: ws := by
        rw [← hsplit]
        exact List.append_nil _
      have hbodies : bodiesOf a x (us ++ (x, b) :: ws) = [a.body b] := by
        rw [bodiesOf_append, bodiesOf_of_ne hearlier]
        simpa [bodiesOf] using bodiesOf_of_ne (a := a) hlater
      rw [harena]
      simp only [List.nil_append, hlist, hbodies]
      rfl
    · cases hmerged.symm.trans hm
      rw [harena, hlaid.isOver.isBlockSuper, ← hlaid.content]
      have hlist : blocksOf a (lower ++ [r]) (below ++ [root]) =
          (blocksOf a lower below ++ us) ++ (x, b) :: ws := by
        rw [blocksOf_concat hlower, hsplit, List.append_assoc]
      rw [hlist] at howns ⊢
      exact content_eq_body_of_last ha (Over.start a) howns hlater

/-- A chain that nests no blocks resolves, and a block of its layout holds the content of the
nearest ancestor in the place of every mark exactly when the marks each meet the next body. -/
theorem resolve_super_iff {setup : Setup} {name : Option String} {tokens : List Token}
    {levels : List (List Node)} (hread : readChain setup name tokens = .ok levels)
    (hflat : ∀ level ∈ levels, Node.nestingsAll level = []) :
    ∃ t, (resolve setup name tokens).1 = .ok t ∧ ∀ v ∈ layoutBlocks levels,
      (t.arena.body v.2 = nearest t.arena.isBlockSuper (storedBodies levels v.1) ↔
        MarksMet t.arena.isBlockSuper (storedBodies levels v.1)) := by
  have hlevels := readChain_spec hread
  obtain ⟨below, root, rfl⟩ := exists_concat hlevels.ne_nil
  have hbelow : ∀ level ∈ below, Node.nestingsAll level = [] :=
    fun level hl => hflat level (List.mem_append_left _ hl)
  obtain ⟨t, ht, -⟩ := mergeLevels_rewrites hlevels hbelow
  refine ⟨t, ?_, fun v hv => ?_⟩
  · rw [resolve_eq, hread]
    exact ht
  · obtain ⟨hoverlay, hnodup⟩ := mergeLevels_overlay hlevels hflat ht hv
    have hne : storedBodies (below ++ [root]) v.1 ≠ [] := by
      intro hnil
      rw [hnil] at hoverlay
      cases hoverlay
    rw [← overlay_eq_nearest_iff hne hnodup, hoverlay, Option.some.injEq]

/-- Layouts with a block that a template overrides. -/
def plainLayouts : Setup where
  sources := [
    ("mid.liquid", extendsSource "root" (blockSource "x" "M")),
    ("root.liquid", blockSource "x" "R")]

/-- The tokens of a template that asks for the overridden content twice. -/
def doubledSuper : List Token :=
  tokensOf (extendsSource "mid" (blockSource "x" (superSource ++ superSource)))

/-- The criterion applies where a template asks for the overridden content twice. -/
theorem resolve_super_iff_doubledSuper : ∃ levels,
    readChain plainLayouts none doubledSuper = .ok levels ∧ levels.length = 3 ∧
      (∀ level ∈ levels, Node.nestingsAll level = []) ∧
      ∃ t, (resolve plainLayouts none doubledSuper).1 = .ok t ∧ ∀ v ∈ layoutBlocks levels,
        (t.arena.body v.2 = nearest t.arena.isBlockSuper (storedBodies levels v.1) ↔
          MarksMet t.arena.isBlockSuper (storedBodies levels v.1)) := by
  have hcheck : (readChain plainLayouts none doubledSuper).toOption.map
      (fun levels => (levels.length, levels.all fun level => (Node.nestingsAll level).isEmpty)) =
      some (3, true) := by
    decide +kernel
  obtain ⟨levels, hread, hcheck⟩ := exists_ok_of_map_toOption hcheck
  simp only [Prod.mk.injEq, List.all_eq_true, List.isEmpty_iff] at hcheck
  exact ⟨levels, hread, hcheck.1, hcheck.2, resolve_super_iff hread hcheck.2⟩

/-- The second mark of the template stands for the content of the layout and not for that of the
level in between. -/
theorem doubledSuper_not_nearest : ∃ levels t,
    readChain plainLayouts none doubledSuper = .ok levels ∧
      (∀ level ∈ levels, Node.nestingsAll level = []) ∧
      (resolve plainLayouts none doubledSuper).1 = .ok t ∧ ∃ v ∈ layoutBlocks levels,
        t.arena.body v.2 ≠ nearest t.arena.isBlockSuper (storedBodies levels v.1) := by
  have hcheck : (readChain plainLayouts none doubledSuper).toOption.map
      (fun levels => (levels.all fun level => (Node.nestingsAll level).isEmpty,
        (resolve plainLayouts none doubledSuper).1.toOption.map fun t =>
          (layoutBlocks levels).map fun v =>
            (t.arena.body v.2, nearest t.arena.isBlockSuper (storedBodies levels v.1)))) =
      some (true, some [([⟨3⟩, ⟨5⟩], [⟨3⟩, ⟨3⟩])]) := by
    decide +kernel
  obtain ⟨levels, hread, hcheck⟩ := exists_ok_of_map_toOption hcheck
  simp only [Prod.mk.injEq, List.all_eq_true, List.isEmpty_iff] at hcheck
  obtain ⟨hflat, hcheck⟩ := hcheck
  obtain ⟨t, ht, hcheck⟩ := exists_ok_of_map_toOption hcheck
  obtain ⟨v, rest, hblocks, hbodies, -⟩ := List.map_eq_cons_iff.1 hcheck
  simp only [Prod.mk.injEq] at hbodies
  refine ⟨levels, t, hread, hflat, ht, v, hblocks ▸ List.mem_cons_self .., ?_⟩
  rw [hbodies.1, hbodies.2]
  decide

end Template

end Stencil
