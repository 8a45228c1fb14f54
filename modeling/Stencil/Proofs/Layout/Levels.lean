import Stencil.Proofs.Layout.Flat

/-!
# The levels of a chain

Resolving a template reads the levels of its chain (`Template.readChain`), stores them in one arena
and merges them (`Template.mergeLevels`).  Levels that were read are shaped and define none of their
blocks twice (`Template.readChain_spec`).  As long as no block of a level holds another one, merging
levels merges their blocks in order (`Merging.mergeLevels_flat`), and the number of stored bodies is
enough for the depth of the walk (`Node.outerHeightAll_add_le`).
-/

set_option autoImplicit false

namespace Stencil

/-- Steps that all succeed have as many results as there are steps, and each is that of a step. -/
theorem results_of_mapM {ε α β : Type} {f : α → Except ε β} {l : List α} {l' : List β}
    (h : l.mapM f = .ok l') : l'.length = l.length ∧ ∀ b ∈ l', ∃ a ∈ l, f a = .ok b := by
  induction l generalizing l' with
  | nil =>
    cases h
    simp
  | cons a rest ih =>
    rw [List.mapM_cons] at h
    obtain ⟨b, hb, h⟩ := ok_of_bind_eq_ok h
    obtain ⟨bs, hbs, h⟩ := ok_of_bind_eq_ok h
    cases h
    obtain ⟨hlen, hmem⟩ := ih hbs
    refine ⟨by simp [hlen], List.forall_mem_cons.2 ⟨⟨a, List.mem_cons_self .., hb⟩, ?_⟩⟩
    intro b' hb'
    obtain ⟨a', ha', hf⟩ := hmem b' hb'
    exact ⟨a', List.mem_cons_of_mem _ ha', hf⟩

/-- Where a list is mapped, each of its entries is. -/
theorem exists_ok_of_mem_of_mapM {ε α β : Type} {f : α → Except ε β} {l : List α} {l' : List β}
    (h : l.mapM f = .ok l') : ∀ a ∈ l, ∃ b, f a = .ok b := by
  induction l generalizing l' with
  | nil => simp
  | cons a rest ih =>
    rw [List.mapM_cons] at h
    obtain ⟨b, hb, h⟩ := ok_of_bind_eq_ok h
    obtain ⟨bs, hbs, -⟩ := ok_of_bind_eq_ok h
    exact List.forall_mem_cons.2 ⟨⟨b, hb⟩, ih hbs⟩

/-- A chain has at least one level. -/
theorem ne_nil_of_levels {setup : Setup} {seen : List String} {tokens : List Token}
    {chain : List (List Token)} (h : (levels setup seen tokens).1 = .ok chain) : chain ≠ [] := by
  rw [levels] at h
  split at h
  · cases h
  · cases h
    exact List.cons_ne_nil _ _
  · dsimp only at h
    split at h
    · cases h
    · split at h
      · cases h
      · split at h
        · cases h
        · next next _ =>
          cases hmore : (levels setup (setup.options.resolveName _ :: seen) next).1 with
          | error e =>
            rw [hmore] at h
            cases h
          | ok more =>
            rw [hmore] at h
            cases h
            exact List.cons_ne_nil _ _

namespace Node

/-- How deep the contents of the blocks of some levels are. -/
def innerHeights (levels : List (List Node)) : Nat :=
  (levels.map innerHeightAll).foldr max 0

/-- The blocks of a level are no higher than those of all levels. -/
theorem innerHeightAll_le_innerHeights {levels : List (List Node)} :
    ∀ level ∈ levels, innerHeightAll level ≤ innerHeights levels := by
  induction levels with
  | nil => simp
  | cons first rest ih =>
    simp only [innerHeights, List.map_cons, List.foldr_cons, List.mem_cons] at ih ⊢
    rintro level (rfl | hmem)
    · exact Nat.le_max_left ..
    · exact Nat.le_trans (ih level hmem) (Nat.le_max_right ..)

/-- Blocks are no higher than there are bodies. -/
theorem innerHeights_le {levels : List (List Node)} (hs : ∀ level ∈ levels, ShapedAll level) :
    innerHeights levels ≤ bodyCountInBodies levels := by
  induction levels with
  | nil => simp [innerHeights]
  | cons first rest ih =>
    have hfirst := outerHeightAll_add_innerHeight_le (hs first (List.mem_cons_self ..))
    have hrest := ih fun level hmem => hs level (List.mem_cons_of_mem _ hmem)
    simp only [innerHeights, List.map_cons, List.foldr_cons, bodyCountInBodies] at hrest ⊢
    omega

/-- A walk into a block of one level and on into the contents of the blocks of any level is no
deeper than the bodies are many. -/
theorem outerHeightAll_add_le {levels : List (List Node)}
    (hs : ∀ level ∈ levels, ShapedAll level) : ∀ level ∈ levels,
      outerHeightAll level + innerHeights levels ≤ bodyCountInBodies levels := by
  induction levels with
  | nil => simp
  | cons first rest ih =>
    have hrest : ∀ level ∈ rest, ShapedAll level :=
      fun level hmem => hs level (List.mem_cons_of_mem _ hmem)
    have hfirst := outerHeightAll_add_innerHeight_le (hs first (List.mem_cons_self ..))
    have hinner := innerHeights_le hrest
    have ih := ih hrest
    simp only [innerHeights, List.map_cons, List.foldr_cons, bodyCountInBodies, List.mem_cons]
      at hinner ih ⊢
    rintro level (rfl | hmem)
    · omega
    · have hlevel := ih level hmem
      omega

end Node

namespace Merging

open Arena Template

section Flat

variable {a : Arena} {roots : List BodyId} {levels : List (List Node)}

/-- Levels whose blocks hold no blocks are merged block by block. -/
theorem mergeLevels_flat (ha : Forest a) (hl : LevelsAt a roots levels)
    (hs : ∀ level ∈ levels, Node.ShapedAll level)
    (hflat : ∀ level ∈ levels, Node.nestingsAll level = []) {m : Merging} (hm : Over a m)
    {d k : Nat} {inert : List BodyId} (hq : Quiet a d inert m)
    (hmem : ∀ v ∈ blocksOf a roots levels, v.2 ∈ inert)
    (hk : ∀ level ∈ levels, Node.outerHeightAll level + d ≤ k) :
    roots.foldlM (fun m root => mergeIn (k + 1) root m) m =
      some (m.settleAll (blocksOf a roots levels)) := by
  induction hl generalizing m with
  | nil => rfl
  | @cons root level roots levels hroot hl ih =>
    have hfree := ha.not_owns_of_free hroot.1
    rw [blocksOf_cons] at hmem ⊢
    have howns : ∀ v ∈ blocksAtAll a (a.body root) level, Owns a v.1 v.2 :=
      fun v hv => owns_of_mem_blocksAtAll hv
    have hmem₁ : ∀ v ∈ blocksAtAll a (a.body root) level, v.2 ∈ inert :=
      fun v hv => hmem v (List.mem_append_left _ hv)
    have hfirst : mergeIn (k + 1) root m =
        some (m.settleAll (blocksAtAll a (a.body root) level)) := by
      rw [mergeIn_succ, hm.plain hfree]
      exact mergeNodes_flat ha hm hq hroot.2 (hs level (List.mem_cons_self ..))
        (hflat level (List.mem_cons_self ..)) hmem₁ (hk level (List.mem_cons_self ..))
    have hrest := ih (fun l hl => hs l (List.mem_cons_of_mem _ hl))
      (fun l hl => hflat l (List.mem_cons_of_mem _ hl)) (hm.settleAll ha howns)
      (hq.settleAll ha hm howns hmem₁) (fun v hv => hmem v (List.mem_append_right _ hv))
      fun l hl => hk l (List.mem_cons_of_mem _ hl)
    rw [List.foldlM_cons, hfirst, settleAll_append]
    exact hrest

/-- Before anything is merged, the bodies of blocks that hold no blocks are inert. -/
theorem quiet_start (hl : LevelsAt a roots levels) (hs : ∀ level ∈ levels, Node.ShapedAll level)
    (hflat : ∀ level ∈ levels, Node.nestingsAll level = []) :
    Quiet a (Node.innerHeights levels) ((blocksOf a roots levels).map Prod.snd)
      { arena := a } := by
  refine ⟨fun h => by simp [content?, Dict.find?] at h, ?_⟩
  intro b hb
  obtain ⟨v, hv, rfl⟩ := List.mem_map.1 hb
  have hinert : ∃ level ∈ levels, ∀ i ∈ a.body v.2, Inert a (Node.innerHeightAll level) i := by
    clear hb
    induction hl with
    | nil => simp [blocksOf] at hv
    | @cons root level roots levels hroot hl ih =>
      rw [blocksOf_cons, List.mem_append] at hv
      rcases hv with hv | hv
      · exact ⟨level, List.mem_cons_self .., inert_of_mem_blocksAtAll hroot.2
          (hs level (List.mem_cons_self ..)) (hflat level (List.mem_cons_self ..)) v hv⟩
      · obtain ⟨l, hl, h⟩ := ih (fun l hl => hs l (List.mem_cons_of_mem _ hl))
          (fun l hl => hflat l (List.mem_cons_of_mem _ hl)) hv
        exact ⟨l, List.mem_cons_of_mem _ hl, h⟩
  obtain ⟨level, hmem, h⟩ := hinert
  exact fun i hi => (h i hi).mono (Node.innerHeightAll_le_innerHeights level hmem)

end Flat

end Merging

namespace Template

open Arena

/-- The levels of the chain of some tokens, from the template to its last layout. -/
def readChain (setup : Setup) (name : Option String) (tokens : List Token) :
    Except Error (List (List Node)) := do
  let chain ← (levels setup (name.map setup.options.resolveName).toList tokens).1
  chain.mapM (readLevel setup.tags)

/-- The template of levels that were read. -/
def mergeLevels (levels : List (List Node)) : Except Error Template :=
  let (arena, roots) := storeLevels levels {}
  let root := roots.getLast?.getD ⟨0⟩
  if roots.length ≤ 1 then ofArena arena root
  else match Merging.mergeAll arena roots with
    | some m => ofArena m.arena root
    | none => throw .tooDeep

/-- Resolving a template reads its levels and merges them. -/
theorem resolve_eq (setup : Setup) (name : Option String) (tokens : List Token) :
    (resolve setup name tokens).1 = readChain setup name tokens >>= mergeLevels := by
  simp only [resolve, readChain]
  cases h : (levels setup (name.map setup.options.resolveName).toList tokens).1 with
  | error e => rfl
  | ok chain => rfl

/-- What holds of the levels of a chain that were read. -/
structure LevelsRead (levels : List (List Node)) : Prop where
  ne_nil : levels ≠ []
  shaped : ∀ level ∈ levels, Node.ShapedAll level
  names_nodup : ∀ level ∈ levels, (Node.namesAll level).Nodup

/-- The levels of a chain that were read, and the tokens that they were read from. -/
theorem exists_chain_of_readChain {setup : Setup} {name : Option String} {tokens : List Token}
    {levels : List (List Node)} (h : readChain setup name tokens = .ok levels) : ∃ chain,
      (Stencil.levels setup (name.map setup.options.resolveName).toList tokens).1 = .ok chain ∧
        levels.length = chain.length ∧ ∀ level ∈ levels, ∃ own ∈ chain,
          Node.readAll setup.tags own = .ok level ∧ checkBlocks level = .ok () := by
  obtain ⟨chain, hchain, h⟩ := ok_of_bind_eq_ok h
  obtain ⟨hlen, hlevel⟩ := results_of_mapM h
  refine ⟨chain, hchain, hlen, fun level hmem => ?_⟩
  obtain ⟨own, hown, hread⟩ := hlevel level hmem
  obtain ⟨nodes, hnodes, hread⟩ := ok_of_bind_eq_ok hread
  obtain ⟨⟨⟩, hcheck, hread⟩ := ok_of_bind_eq_ok hread
  cases hread
  exact ⟨own, hown, hnodes, hcheck⟩

/-- The levels of a chain are shaped and define none of their blocks twice. -/
theorem readChain_spec {setup : Setup} {name : Option String} {tokens : List Token}
    {levels : List (List Node)} (h : readChain setup name tokens = .ok levels) :
    LevelsRead levels := by
  obtain ⟨chain, hchain, hlen, hread⟩ := exists_chain_of_readChain h
  refine ⟨?_, ?_, ?_⟩
  · rintro rfl
    exact ne_nil_of_levels hchain (List.length_eq_zero_iff.1 hlen.symm)
  · intro level hmem
    obtain ⟨own, -, hnodes, -⟩ := hread level hmem
    exact Node.shapedAll_of_readAll hnodes
  · intro level hmem
    obtain ⟨own, -, -, hcheck⟩ := hread level hmem
    exact checkBlocks_eq_ok_iff.1 hcheck

/-- The source of a tag. -/
def tagSource (args : String) : String :=
  "\x7b% " ++ args ++ " %\x7d"

/-- The source of a mark for overridden content. -/
def superSource : String :=
  "\x7b\x7b block.super \x7d\x7d"

/-- The source of a block. -/
def blockSource (name content : String) : String :=
  tagSource ("block " ++ name) ++ content ++ tagSource "endblock"

/-- The source of a template with a layout. -/
def extendsSource (layout rest : String) : String :=
  tagSource ("extends '" ++ layout ++ "'") ++ rest

/-- The tokens of a source that has some. -/
def tokensOf (source : String) : List Token :=
  (tokenize {} source).toOption.getD []

/-- A chain has a last layout. -/
theorem exists_concat {levels : List (List Node)} (h : levels ≠ []) :
    ∃ below root, levels = below ++ [root] :=
  ⟨levels.dropLast, levels.getLast h, (List.dropLast_concat_getLast h).symm⟩

/-- The last layout has the last root. -/
theorem levelsAt_concat {a : Arena} {roots : List BodyId} {below : List (List Node)}
    {root : List Node} (h : LevelsAt a roots (below ++ [root])) :
    ∃ lower r, roots = lower ++ [r] ∧ LevelsAt a lower below ∧ LevelsAt a [r] [root] := by
  have hlower := List.forall₂_take_append _ _ _ h
  have hlast := List.forall₂_drop_append _ _ _ h
  obtain ⟨r, hr⟩ := List.length_eq_one_iff.1 hlast.length_eq
  rw [hr] at hlast
  refine ⟨roots.take below.length, r, ?_, hlower, hlast⟩
  rw [← hr, List.take_append_drop]

/-- The roots of levels belong to no node. -/
theorem freeBody_of_levelsAt {a : Arena} {roots : List BodyId} {levels : List (List Node)}
    (h : LevelsAt a roots levels) : ∀ root ∈ roots, FreeBody a root := by
  induction h with
  | nil => simp
  | cons hroot _ ih => exact List.forall_mem_cons.2 ⟨hroot.1, ih⟩

/-- The blocks of the last layout are behind those of the levels below it. -/
theorem blocksOf_concat {a : Arena} {lower : List BodyId} {below : List (List Node)}
    (h : LevelsAt a lower below) (r : BodyId) (root : List Node) :
    blocksOf a (lower ++ [r]) (below ++ [root]) =
      blocksOf a lower below ++ blocksAtAll a (a.body r) root := by
  simp [blocksOf, List.zipWith_append h.length_eq]

/-- A tree that is found below a root is that of the template. -/
theorem ofArena_eq {a : Arena} {root : BodyId} {nodes : List Node}
    (h : a.tree? root = some nodes) : ofArena a root = .ok ⟨a, root, nodes, h⟩ := by
  unfold ofArena
  split
  · next nodes' h' =>
    cases h.symm.trans h'
    rfl
  · next h' => simp [h] at h'

/-- A template has the arena and the root that it is made of. -/
theorem of_ofArena {a : Arena} {root : BodyId} {t : Template} (h : ofArena a root = .ok t) :
    t.arena = a ∧ t.root = root := by
  unfold ofArena at h
  split at h
  · cases h
    exact ⟨rfl, rfl⟩
  · cases h

/-- The arena of a template is the one that its levels were stored in, merged if there are several
levels. -/
theorem mergeLevels_cases {levels : List (List Node)} {t : Template}
    (h : mergeLevels levels = .ok t) :
    t.root = (storeLevels levels {}).2.getLast?.getD ⟨0⟩ ∧
      ((storeLevels levels {}).2.length ≤ 1 ∧ t.arena = (storeLevels levels {}).1 ∨
        1 < (storeLevels levels {}).2.length ∧ ∃ m,
          Merging.mergeAll (storeLevels levels {}).1 (storeLevels levels {}).2 = some m ∧
            t.arena = m.arena) := by
  unfold mergeLevels at h
  generalize storeLevels levels {} = stored at h
  obtain ⟨a, roots⟩ := stored
  dsimp only at h ⊢
  split at h
  · next hone =>
    obtain ⟨harena, hroot⟩ := of_ofArena h
    exact ⟨hroot, .inl ⟨hone, harena⟩⟩
  · next hmany =>
    split at h
    · next m hm =>
      obtain ⟨harena, hroot⟩ := of_ofArena h
      exact ⟨hroot, .inr ⟨by omega, m, hm, harena⟩⟩
    · cases h

end Template

end Stencil
