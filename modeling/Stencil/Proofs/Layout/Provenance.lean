import Stencil.Proofs.Layout.Coverage
import Stencil.Proofs.Layout.Ending

/-!
# Where the content of a template comes from

Merging a chain moves nodes between the blocks of one name and nothing else
(`Template.Provenance`).  What a block holds in the end was in a block of its name in some level
(`Merging.Sourced`), and every body that is not that of a block is as it was stored.  So what is
reached in a template belongs to its last layout or stands inside a block of its own level, and what
a level below has outside of its blocks is never rendered (`Template.resolve_provenance`).
-/

set_option autoImplicit false

namespace Stencil

namespace Merging

open Arena

/-- Every node in a block was stored in a block of its name. -/
def Sourced (a : Arena) (m : Merging) : Prop :=
  ∀ x b id, Owns a x b → id ∈ m.arena.body b → ∃ c, Owns a x c ∧ id ∈ a.body c

section Sourced

variable {a : Arena} {m : Merging} {vs : List (String × BodyId)}

/-- Before a merge, every node is where it was stored. -/
theorem Sourced.start (a : Arena) : Sourced a { arena := a } :=
  fun _ b _ hb hid => ⟨b, hb, hid⟩

/-- Merging a block brings nodes only into blocks of their name. -/
theorem Sourced.settle (h : Sourced a m) (ha : Forest a) (hm : Over a m) {x : String}
    {own : BodyId} (hown : Owns a x own) : Sourced a (m.settle x own) := by
  have hstep := settle_spec ha hm hown
  intro y b id hb hid
  by_cases hy : y = x
  · subst hy
    rcases hstep.body_eq_or b with heq | heq
    · -- the nodes of the block and those of the canonical body are blended
      rw [heq, Option.some.inj (hstep.own_eq.symm.trans hstep.content_eq)] at hid
      rcases mem_of_mem_blend hid with hid | ⟨content, hcontent, hid⟩
      · exact h y own id hown hid
      · obtain ⟨target, hfind, rfl⟩ := Option.map_eq_some_iff.1 hcontent
        exact h y target id (hm.owns hfind) hid
    · rw [heq] at hid
      exact h y b id hb hid
  · rw [hstep.body_of_ne ha hm hown hy hb] at hid
    exact h y b id hb hid

/-- Merging blocks brings nodes only into blocks of their names. -/
theorem Sourced.settleAll (h : Sourced a m) (ha : Forest a) (hm : Over a m)
    (hvs : ∀ v ∈ vs, Owns a v.1 v.2) : Sourced a (m.settleAll vs) := by
  induction vs generalizing m with
  | nil => exact h
  | cons v vs ih =>
    have hv := hvs v (List.mem_cons_self ..)
    have hstep := settle_spec ha hm hv
    rw [settleAll_cons]
    apply ih (h.settle ha hm hv) hstep.isOver
    intro w hw
    exact hvs w (List.mem_cons_of_mem _ hw)

end Sourced

end Merging

namespace Arena

/-- A node stands inside a block that is below the body. -/
def InBlock (a : Arena) (root : BodyId) (id : NodeId) : Prop :=
  ∃ outer x b, a.Below root outer ∧ a.block? outer = some (x, b) ∧ a.Below b id

/-- A node in a block below a body is reached from it. -/
theorem InBlock.below {a : Arena} (ha : Forest a) {root : BodyId} {id : NodeId}
    (h : a.InBlock root id) : a.Below root id := by
  obtain ⟨outer, x, b, houter, hblock, hid⟩ := h
  exact houter.trans (ha.mem_children hblock) hid

/-- What is below a node in a block is in the block. -/
theorem InBlock.deep {a : Arena} {root b : BodyId} {id id' : NodeId} (h : a.InBlock root id)
    (hb : b ∈ a.children id) (hid : id' ∈ a.body b) : a.InBlock root id' := by
  obtain ⟨outer, x, c, houter, hblock, hinner⟩ := h
  exact ⟨outer, x, c, houter, hblock, .deep hinner hb hid⟩

end Arena

namespace Template

open Arena Merging

/-- What a template keeps of the levels that were stored in an arena with the given roots: the nodes,
every body that is not that of a block, the origin of what the blocks hold, and with it the origin
of everything that is reached. -/
structure Provenance (a : Arena) (roots : List BodyId) (t : Template) : Prop where
  root : roots.getLast? = some t.root
  nodesAt : t.arena.NodesAt (t.arena.body t.root) t.nodes
  cells : t.arena.cells = a.cells
  size : t.arena.bodies.size = a.bodies.size
  plain : ∀ b, (∀ x, ¬ Owns a x b) → t.arena.body b = a.body b
  toplevel : ∀ r ∈ roots, t.arena.body r = a.body r
  tag : ∀ id, a.block? id = none → ∀ b ∈ a.children id, t.arena.body b = a.body b
  source : ∀ x b, Owns a x b → ∀ id ∈ t.arena.body b,
    ∃ r ∈ roots, ∃ outer c, a.Below r outer ∧ a.block? outer = some (x, c) ∧ id ∈ a.body c
  /-- What is reached belongs to a level. -/
  level : ∀ id, t.arena.Below t.root id → ∃ r ∈ roots, a.Below r id
  /-- Only what stands inside the blocks of a level other than the last layout is reached. -/
  inBlock : ∀ id, t.arena.Below t.root id → ∀ r ∈ roots, a.Below r id →
    r = t.root ∨ a.InBlock r id

section Provenance

variable {levels : List (List Node)} {a : Arena} {roots : List BodyId} {t : Template}
  {vs : List (String × BodyId)}

/-- The root of a template is that of the last layout. -/
theorem getLast?_roots (hread : LevelsRead levels) (hstored : storeLevels levels {} = (a, roots))
    (ht : mergeLevels levels = .ok t) : roots.getLast? = some t.root := by
  have hlength := length_storeLevels levels {}
  have hroot := (mergeLevels_cases ht).1
  rw [hstored] at hlength hroot
  cases hlast : roots.getLast? with
  | none =>
    rw [List.getLast?_eq_none_iff.1 hlast] at hlength
    exact absurd (List.length_eq_zero_iff.1 hlength.symm) hread.ne_nil
  | some r =>
    rw [hroot, hlast]
    rfl

/-- Merging blocks of stored levels one after the other moves nodes between blocks of one name. -/
theorem provenance_of_settleAll (hread : LevelsRead levels)
    (hstored : storeLevels levels {} = (a, roots)) (ht : mergeLevels levels = .ok t)
    (hvs : ∀ v ∈ vs, Owns a v.1 v.2)
    (harena : t.arena = (settleAll { arena := a } vs).arena) : Provenance a roots t := by
  have hroot := getLast?_roots hread hstored ht
  have hspec := storeLevels_spec forest_empty hread.shaped
  have hcover := @exists_level_of_block? levels hread.shaped
  rw [hstored] at hspec hcover
  have ha := hspec.forest
  have hstart := Over.start a
  have hover := hstart.settleAll ha hvs
  have hsourced := (Sourced.start a).settleAll ha hstart hvs
  have hfree := freeBody_of_levelsAt hspec.levelsAt
  generalize settleAll { arena := a } vs = m at hover hsourced harena
  have hplain : ∀ b, (∀ x, ¬ Owns a x b) → t.arena.body b = a.body b := by
    intro b hb
    rw [harena]
    exact hover.plain hb
  have htop : ∀ r ∈ roots, t.arena.body r = a.body r := by
    intro r hr
    exact hplain r (ha.not_owns_of_free (hfree r hr))
  have hsource : ∀ x b, Owns a x b → ∀ id ∈ t.arena.body b, ∃ r ∈ roots, ∃ outer c,
      a.Below r outer ∧ a.block? outer = some (x, c) ∧ id ∈ a.body c := by
    intro x b hb id hid
    rw [harena] at hid
    obtain ⟨c, ⟨outer, hblock⟩, hid⟩ := hsourced x b id hb hid
    obtain ⟨r, hr, hbelow⟩ := hcover hblock
    exact ⟨r, hr, outer, c, hbelow, hblock, hid⟩
  have hlast : t.root ∈ roots := List.mem_of_getLast? hroot
  have hreached : ∀ id, t.arena.Below t.root id →
      a.Below t.root id ∨ ∃ r ∈ roots, a.InBlock r id := by
    intro id hid
    induction hid with
    | direct hid =>
      rw [htop t.root hlast] at hid
      exact .inl (.direct hid)
    | @deep id id' b _ hb hid ih =>
      rw [harena, hover.children] at hb
      by_cases hown : ∃ x, Owns a x b
      · obtain ⟨x, hown⟩ := hown
        obtain ⟨r, hr, outer, c, hbelow, hblock, hid⟩ := hsource x b hown id' hid
        exact .inr ⟨r, hr, outer, x, c, hbelow, hblock, .direct hid⟩
      · rw [hplain b (not_exists.1 hown)] at hid
        rcases ih with h | ⟨r, hr, h⟩
        · exact .inl (.deep h hb hid)
        · exact .inr ⟨r, hr, h.deep hb hid⟩
  refine ⟨hroot, nodesAt_of_unfold t.tree?_root, ?_, ?_, hplain, htop, ?_, hsource, ?_, ?_⟩
  · rw [harena]
    exact hover.cells
  · rw [harena]
    exact hover.size
  · intro id hid b hb
    exact hplain b (ha.not_owns_of_mem_children hb hid)
  · intro id hid
    rcases hreached id hid with h | ⟨r, hr, h⟩
    · exact ⟨t.root, hlast, h⟩
    · exact ⟨r, hr, h.below ha⟩
  · intro id hid r hr hbelow
    rcases hreached id hid with h | ⟨r', hr', h⟩
    · exact .inl (ha.level_unique (hfree r hr) (hfree _ hlast) hbelow h)
    · -- a node belongs to one level only
      obtain rfl := ha.level_unique (hfree r hr) (hfree r' hr') hbelow (h.below ha)
      exact .inr h

end Provenance

/-- A chain whose merge ends has a template, and its content comes from the last layout and from the
blocks of the levels below. -/
theorem resolve_provenance {setup : Setup} {name : Option String} {tokens : List Token}
    {levels : List (List Node)} {a : Arena} {earlier last : List (String × BodyId)}
    (hread : readChain setup name tokens = .ok levels) (hlog : MergeLog levels a earlier last) :
    ∃ roots t, storeLevels levels {} = (a, roots) ∧ LevelsAt a roots levels ∧
      (resolve setup name tokens).1 = .ok t ∧ Provenance a roots t := by
  have hlevels := readChain_spec hread
  have hspec := storeLevels_spec forest_empty hlevels.shaped
  have hfirst := hlog.arena_eq
  obtain ⟨roots, hstored⟩ : ∃ roots, storeLevels levels {} = (a, roots) :=
    ⟨(storeLevels levels {}).2, Prod.ext hfirst rfl⟩
  rw [hstored] at hspec
  obtain ⟨t, ht, harena⟩ := exists_ok_of_mergeLog hlevels hlog
  refine ⟨roots, t, hstored, hspec.levelsAt, ?_, ?_⟩
  · rw [resolve_eq, hread]
    exact ht
  · exact provenance_of_settleAll hlevels hstored ht (hlog.owns hspec.forest) harena

/-- A layout whose block stands in a tag, and a level that has text inside and outside of it. -/
def guardedLayout : Setup where
  sources := [
    ("mid.liquid", extendsSource "root" ("out" ++ blockSource "a" ("M" ++ superSource))),
    ("root.liquid", tagSource "if a" ++ blockSource "a" "R" ++ tagSource "endif")]

/-- The tokens of a template that has text outside of its block, too. -/
def textOutside : List Token :=
  tokensOf (extendsSource "mid" ("text" ++ blockSource "a" ("L" ++ superSource)))

/-- The description applies to a chain whose levels have text outside of their block. -/
theorem resolve_provenance_textOutside : ∃ levels a earlier last,
    readChain guardedLayout none textOutside = .ok levels ∧ MergeLog levels a earlier last ∧
      ∃ roots t, storeLevels levels {} = (a, roots) ∧ LevelsAt a roots levels ∧
        (resolve guardedLayout none textOutside).1 = .ok t ∧ Provenance a roots t := by
  have hcheck : (resolve guardedLayout none textOutside).1.toOption.map
      (fun t => t.arena.cells.size) = some 11 := by
    decide +kernel
  obtain ⟨t, ht, -⟩ := exists_ok_of_map_toOption hcheck
  rw [resolve_eq] at ht
  obtain ⟨levels, hread, ht⟩ := ok_of_bind_eq_ok ht
  obtain ⟨a, earlier, last, hlog, -⟩ := exists_mergeLog (readChain_spec hread).ne_nil ht
  exact ⟨levels, a, earlier, last, hread, hlog, resolve_provenance hread hlog⟩

end Template

end Stencil
