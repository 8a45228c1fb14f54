import Stencil.Proofs.Arena.Access
import Stencil.Proofs.Arena.Drafting
import Stencil.Proofs.Layout.Ending

/-!
# Handles in merged templates

Merging looks up nodes and bodies by handle too (`Merging.mergeAt`).  The nodes and the bodies of an
arena are as many after a block was merged as before, and the nodes that a body gets stood in a body
before.  So a merge in an arena whose handles are in range meets no handle out of range
(`Merging.merges_mergeAt`), however it goes on, and leaves them in range.  What is read from tokens
is stored in a well-formed arena, and so nothing that follows handles in a template fails
(`Template.handles_in_range`).
-/

set_option autoImplicit false

namespace Stencil

namespace Arena

variable {a : Arena} {id : NodeId} {b : BodyId}

/-- The body of a block is one of its cell. -/
theorem mem_bodies_of_block? {c : Cell} {x : String} (h : c.block? = some (x, b)) :
    b ∈ c.bodies := by
  cases c with
  | literal => simp [Cell.block?] at h
  | output => simp [Cell.block?] at h
  | tag head bodies t =>
    simp only [Cell.block?] at h
    split at h
    · cases h
      exact List.mem_cons_self ..
    · cases h

/-- Setting a body adds none. -/
theorem size_setBody (a : Arena) (b : BodyId) (nodes : List NodeId) :
    (a.setBody b nodes).bodies.size = a.bodies.size :=
  Array.size_setIfInBounds

/-- Setting a body to nodes in range keeps handles in range. -/
theorem InRange.setBody (h : a.InRange) (hb : b.index < a.bodies.size) {nodes : List NodeId}
    (hnodes : ∀ id ∈ nodes, id.index < a.cells.size) : (a.setBody b nodes).InRange where
  node_lt {b' id} hid := by
    rw [body_setBody hb] at hid
    split at hid
    · exact hnodes id hid
    · exact h.node_lt hid
  body_lt {id b'} hb' := by
    rw [size_setBody]
    exact h.body_lt hb'

/-- Replaces the first mark among some nodes, which are looked up one after the other. -/
def substFirstAt (a : Arena) (content : List NodeId) : List NodeId → Except Fault (List NodeId)
  | [] => return []
  | id :: rest => do
    if (← a.cellAt id).isBlockSuper then return content ++ rest
    else return id :: (← a.substFirstAt content rest)

/-- Among nodes in range, no lookup faults, and the first mark is replaced as without lookups. -/
theorem substFirstAt_eq (content : List NodeId) {ids : List NodeId}
    (hids : ∀ id ∈ ids, id.index < a.cells.size) :
    a.substFirstAt content ids = .ok (substFirst a.isBlockSuper content ids) := by
  induction ids with
  | nil => rfl
  | cons id rest ih =>
    obtain ⟨hid, hrest⟩ := List.forall_mem_cons.1 hids
    obtain ⟨c, hc⟩ := exists_cell?_of_lt hid
    have hmark : a.isBlockSuper id = c.isBlockSuper := by rw [isBlockSuper, hc, Option.any_some]
    rw [substFirstAt, cellAt_of_cell? hc, ih hrest, substFirst, hmark]
    show (if c.isBlockSuper then Except.ok (content ++ rest) else _) = _
    split <;> rfl

end Arena

namespace Merging

open Arena

/-- Merges one block with its canonical body. -/
def settleAt (m : Merging) (name : String) (own : BodyId) : Except Fault Merging :=
  match Dict.find? name m.canonical with
  | none => return { m with canonical := Dict.insert name own m.canonical }
  | some target => do
    if target = own then return m
    let inner ← m.arena.bodyAt own
    let content ← m.arena.bodyAt target
    if inner = content then return m
    let merged ← m.arena.substFirstAt inner content
    return { m with arena := ← (← m.arena.setBodyAt target merged).setBodyAt own merged }

/-- Merges the node behind a handle, given how the blocks below a body are merged. -/
def mergeNodeAt (inner : BodyId → Merging → Except Fault Merging) (m : Merging) (id : NodeId) :
    Except Fault Merging := do
  let c ← m.arena.cellAt id
  match c.block? with
  | some (name, own) => inner own (← m.settleAt name own)
  | none => c.bodies.foldlM (fun m b => inner b m) m

/-- Merges the blocks below a body, unless they are more than `n` bodies deep. -/
def mergeAt : Nat → BodyId → Merging → Except Fault Merging
  | 0, _, _ => .error .tooDeep
  | n + 1, b, m => do (← m.arena.bodyAt b).foldlM (mergeNodeAt (mergeAt n)) m

/-- A state in the merge of an arena, whose handles are in range. -/
structure Bounded (a : Arena) (m : Merging) : Prop where
  cells : m.arena.cells = a.cells
  size : m.arena.bodies.size = a.bodies.size
  inRange : m.arena.InRange
  canonical_lt : ∀ {x b}, Dict.find? x m.canonical = some b → b.index < a.bodies.size

section Bounded

variable {a : Arena} {m : Merging} {own : BodyId}

/-- A merge begins with handles in range. -/
theorem Bounded.start (h : a.InRange) : Bounded a { arena := a } :=
  ⟨rfl, rfl, h, fun h => by simp [Dict.find?] at h⟩

/-- The nodes of bodies are in range all through the merge. -/
theorem Bounded.node_lt (hm : Bounded a m) {b : BodyId} {id : NodeId} (hid : id ∈ m.arena.body b) :
    id.index < a.cells.size :=
  hm.cells ▸ hm.inRange.node_lt hid

/-- A body in range may become canonical. -/
theorem Bounded.insert (hm : Bounded a m) (x : String) (hown : own.index < a.bodies.size) :
    Bounded a { m with canonical := Dict.insert x own m.canonical } where
  cells := hm.cells
  size := hm.size
  inRange := hm.inRange
  canonical_lt {y b} hb := by
    by_cases hy : y = x
    · subst hy
      rw [Dict.find?_insert_self] at hb
      cases hb
      exact hown
    · rw [Dict.find?_insert_of_ne hy] at hb
      exact hm.canonical_lt hb

/-- A body may be set to nodes in range. -/
theorem Bounded.setBody (hm : Bounded a m) {b : BodyId} (hb : b.index < a.bodies.size)
    {nodes : List NodeId} (hnodes : ∀ id ∈ nodes, id.index < a.cells.size) :
    Bounded a { m with arena := m.arena.setBody b nodes } where
  cells := hm.cells
  size := (size_setBody ..).trans hm.size
  inRange := hm.inRange.setBody (hm.size.symm ▸ hb) (hm.cells.symm ▸ hnodes)
  canonical_lt := hm.canonical_lt

/-- Merging a block meets no handle out of range, and leaves all handles in range. -/
theorem settleAt_eq (hm : Bounded a m) (x : String) (hown : own.index < a.bodies.size) :
    m.settleAt x own = .ok (m.settle x own) ∧ Bounded a (m.settle x own) := by
  unfold settleAt settle
  cases hfind : Dict.find? x m.canonical with
  | none => exact ⟨rfl, hm.insert x hown⟩
  | some target =>
    have htarget := hm.canonical_lt hfind
    dsimp only
    by_cases hsame : target = own
    · rw [if_pos hsame, if_pos (.inl hsame)]
      exact ⟨rfl, hm⟩
    rw [if_neg hsame, bodyAt_of_lt (hm.size.symm ▸ hown), bodyAt_of_lt (hm.size.symm ▸ htarget)]
    simp only [bind, Except.bind]
    by_cases hequal : m.arena.body own = m.arena.body target
    · rw [if_pos hequal, if_pos (.inr hequal)]
      exact ⟨rfl, hm⟩
    rw [if_neg hequal, if_neg (not_or.2 ⟨hsame, hequal⟩),
      substFirstAt_eq _ fun id hid => hm.inRange.node_lt hid]
    have hmerged : ∀ id ∈ substFirst m.arena.isBlockSuper (m.arena.body own) (m.arena.body target),
        id.index < a.cells.size := fun id hid =>
      (mem_of_mem_substFirst hid).elim hm.node_lt hm.node_lt
    have hfirst := hm.setBody htarget hmerged
    dsimp only
    rw [setBodyAt_of_lt (hm.size.symm ▸ htarget)]
    dsimp only
    rw [setBodyAt_of_lt (hfirst.size.symm ▸ hown)]
    exact ⟨rfl, hfirst.setBody hown hmerged⟩

/-- What merging with lookups gives, given what it gives without them. -/
def Merges (a : Arena) (r : Except Fault Merging) (r' : Option Merging) : Prop :=
  r = inDepth r' ∧ ∀ m ∈ r', Bounded a m

/-- A loop of steps that follow handles without a fault follows them without a fault. -/
theorem merges_foldlM {α : Type} {f : Merging → α → Except Fault Merging}
    {g : Merging → α → Option Merging} {l : List α}
    (h : ∀ m, Bounded a m → ∀ x ∈ l, Merges a (f m x) (g m x)) (hm : Bounded a m) :
    Merges a (l.foldlM f m) (l.foldlM g m) := by
  induction l generalizing m with
  | nil => exact ⟨rfl, fun _ h => by cases h; exact hm⟩
  | cons x l ih =>
    obtain ⟨hx, hbounded⟩ := h m hm x (List.mem_cons_self ..)
    rw [List.foldlM_cons, List.foldlM_cons, hx]
    cases hg : g m x with
    | none => exact ⟨rfl, fun _ h => by cases h⟩
    | some m' => exact ih (fun m hm y hy => h m hm y (List.mem_cons_of_mem _ hy)) (hbounded m' hg)

/-- Merging below a body meets no handle out of range, however deep it goes. -/
theorem merges_mergeAt (n : Nat) {b : BodyId} (hb : b.index < a.bodies.size) (hm : Bounded a m) :
    Merges a (mergeAt n b m) (mergeIn n b m) := by
  induction n generalizing b m with
  | zero => exact ⟨rfl, fun _ h => by cases h⟩
  | succ n ih =>
    rw [mergeIn_succ, mergeAt, bodyAt_of_lt (hm.size.symm ▸ hb)]
    have hids : ∀ id ∈ m.arena.body b, id.index < a.cells.size := fun id hid => hm.node_lt hid
    refine merges_foldlM (fun m hm id hid => ?_) hm
    obtain ⟨c, hc⟩ := exists_cell?_of_lt (hm.cells.symm ▸ hids id hid)
    have hchild : ∀ c' ∈ c.bodies, c'.index < a.bodies.size := by
      intro c' hc'
      rw [← children_of_cell? hc] at hc'
      exact hm.size ▸ hm.inRange.body_lt hc'
    unfold mergeNodeAt mergeNode
    rw [cellAt_of_cell? hc, children_of_cell? hc, block?_of_cell? hc]
    simp only [bind, Except.bind]
    cases hblock : c.block? with
    | none => exact merges_foldlM (fun m hm b hb => ih (hchild b hb) hm) hm
    | some named =>
      obtain ⟨x, own⟩ := named
      have hown := hchild own (mem_bodies_of_block? hblock)
      obtain ⟨hsettle, hbounded⟩ := settleAt_eq hm x hown
      dsimp only
      rw [hsettle]
      exact ih hown hbounded

end Bounded

/-- Merges the levels of a chain, given by their bodies, unless the merge goes more than `n` bodies
deep. -/
def mergeAllAt (n : Nat) (a : Arena) (roots : List BodyId) : Except Fault Merging :=
  roots.foldlM (fun m root => mergeAt n root m) { arena := a }

/-- The merge of a chain follows its handles without a fault. -/
theorem merges_mergeAllAt (n : Nat) {a : Arena} (ha : a.InRange) {roots : List BodyId}
    (hroots : ∀ root ∈ roots, root.index < a.bodies.size) : Merges a (mergeAllAt n a roots)
      (roots.foldlM (fun m root => mergeIn n root m) { arena := a }) :=
  merges_foldlM (fun _ hm root hroot => merges_mergeAt n (hroots root hroot) hm) (.start ha)

end Merging

namespace Template

open Arena Merging

/-- The arena and the root of the template of some levels, which are merged if there are several. -/
def mergeLevelsAt (levels : List (List Node)) : Except Fault (Arena × BodyId) := do
  let (arena, roots) := storeLevels levels {}
  let root := roots.getLast?.getD ⟨0⟩
  if roots.length ≤ 1 then return (arena, root)
  else return ((← mergeAllAt (arena.bodies.size + 1) arena roots).arena, root)

/-- The outline and the rendering of a template are what following its handles gives. -/
structure Followed (t : Template) : Prop where
  inRange : t.arena.InRange
  root_lt : t.root.index < t.arena.bodies.size
  outline : (Fold.outline.follow t.arena (t.arena.bodies.size + 1) t.root).map (· 0) = .ok t.outline
  rendering : ∀ filters fetch,
    (Fold.rendering filters fetch).follow t.arena (t.arena.bodies.size + 1) t.root =
      .ok (Node.renderAll filters fetch t.nodes)

/-- An arena whose handles are in range is outlined and rendered without a fault. -/
theorem followed_of_inRange {t : Template} (h : t.arena.InRange)
    (hroot : t.root.index < t.arena.bodies.size) : t.Followed := by
  have hfollow {α β : Type} (f : Fold α β) :
      f.follow t.arena (t.arena.bodies.size + 1) t.root = .ok (f.ofNodes t.nodes) := by
    rw [f.follow_eq h _ hroot, show t.arena.unfold _ t.root = some t.nodes from t.tree?_root]
    rfl
  refine ⟨h, hroot, ?_, fun filters fetch => ?_⟩
  · rw [hfollow, Except.map, Fold.ofNodes_outline]
    rfl
  · rw [hfollow, Fold.ofNodes_rendering]

/-- Storing levels that were read keeps an arena well formed. -/
theorem wellFormed_storeLevels {levels : List (List Node)}
    (hread : ∀ level ∈ levels, ∃ own, Node.readAll TagKind.builtin own = .ok level) {a : Arena}
    (ha : a.WellFormed) : (storeLevels levels a).1.WellFormed := by
  induction levels generalizing a with
  | nil => exact ha
  | cons level rest ih =>
    obtain ⟨⟨own, hown⟩, hrest⟩ := List.forall_mem_cons.1 hread
    have hstored : Draft.readInto a own = .ok (storeBody level a) := by
      rw [Draft.readInto_eq, hown]
      rfl
    exact ih hrest (Draft.wellFormed_readInto ha hstored).1

/-- The template of levels whose handles are in range is found by following them. -/
theorem followed_of_mergeLevels {levels : List (List Node)} (hne : levels ≠ [])
    (ha : (storeLevels levels {}).1.InRange)
    (hroots : ∀ root ∈ (storeLevels levels {}).2,
      root.index < (storeLevels levels {}).1.bodies.size) {t : Template}
    (ht : mergeLevels levels = .ok t) :
    mergeLevelsAt levels = .ok (t.arena, t.root) ∧ t.Followed := by
  obtain ⟨hroot, hcases⟩ := mergeLevels_cases ht
  have hlength := length_storeLevels levels {}
  have hmem : t.root ∈ (storeLevels levels {}).2 := by
    have hroots : (storeLevels levels {}).2 ≠ [] := by
      rw [← List.length_pos_iff, hlength]
      exact List.length_pos_of_ne_nil hne
    rw [hroot, List.getLast?_eq_getLast_of_ne_nil hroots]
    exact List.getLast_mem hroots
  have hlt := hroots t.root hmem
  unfold mergeLevelsAt
  generalize storeLevels levels {} = stored at *
  obtain ⟨a, roots⟩ := stored
  dsimp only at *
  rw [← hroot]
  rcases hcases with ⟨hone, harena⟩ | ⟨hmany, m, hm, harena⟩
  · rw [if_pos hone, harena]
    exact ⟨rfl, followed_of_inRange (harena ▸ ha) (harena ▸ hlt)⟩
  · obtain ⟨hmerge, hbounded⟩ := merges_mergeAllAt (a.bodies.size + 1) ha hroots
    have hend := hbounded m hm
    have hmerged : mergeAllAt (a.bodies.size + 1) a roots = .ok m := by
      rw [hmerge, show roots.foldlM _ _ = some m from hm]
      rfl
    rw [if_neg (Nat.not_le.2 hmany), hmerged, harena]
    refine ⟨rfl, followed_of_inRange (harena ▸ hend.inRange) ?_⟩
    rw [harena, hend.size]
    exact hlt

/-- What holds of the handles of a chain of levels, before they are merged, while they are merged
and in the template. -/
structure HandlesValid (setup : Setup) (name : Option String) (tokens : List Token)
    (levels : List (List Node)) : Prop where
  wellFormed : (storeLevels levels {}).1.WellFormed
  free : ∀ root ∈ (storeLevels levels {}).2, FreeBody (storeLevels levels {}).1 root
  /-- Merging meets no handle out of range, however deep it goes. -/
  merging : ∀ n, mergeAllAt n (storeLevels levels {}).1 (storeLevels levels {}).2 =
    inDepth ((storeLevels levels {}).2.foldlM (fun m root => mergeIn n root m)
      { arena := (storeLevels levels {}).1 })
  ending : ∀ {a earlier last}, MergeLog levels a earlier last →
    ∃ t, (resolve setup name tokens).1 = .ok t
  template : ∀ {t}, (resolve setup name tokens).1 = .ok t →
    mergeLevelsAt levels = .ok (t.arena, t.root) ∧ t.Followed

/-- Reading tokens into a well-formed arena keeps it well-formed, and no handle that is looked up
while levels are merged, or in the template, is out of range. -/
theorem handles_in_range {setup : Setup} (htags : setup.tags = TagKind.builtin) :
    (∀ (a : Arena) (tokens : List Token),
      Draft.readInto a tokens = (Node.readAll setup.tags tokens).map (storeBody · a) ∧
      ∀ a' root, a.WellFormed → Draft.readInto a tokens = .ok (a', root) →
        a'.WellFormed ∧ FreeBody a' root ∧ ∀ b, ∃ nodes, a'.tree? b = some nodes) ∧
    ∀ name tokens levels, readChain setup name tokens = .ok levels →
      HandlesValid setup name tokens levels := by
  refine ⟨fun a tokens => ⟨?_, fun a' root ha h => ?_⟩, fun name tokens levels hread => ?_⟩
  · rw [htags]
    exact Draft.readInto_eq a tokens
  · obtain ⟨ha', hroot⟩ := Draft.wellFormed_readInto ha h
    exact ⟨ha', hroot, ha'.exists_tree⟩
  · obtain ⟨chain, -, -, hlevel⟩ := exists_chain_of_readChain hread
    have hlevels := readChain_spec hread
    have hspec := storeLevels_spec forest_empty hlevels.shaped
    have hwellFormed : (storeLevels levels {}).1.WellFormed := by
      refine wellFormed_storeLevels (fun level hmem => ?_) wellFormed_empty
      obtain ⟨own, -, hown, -⟩ := hlevel level hmem
      exact ⟨own, htags ▸ hown⟩
    have hfree := freeBody_of_levelsAt hspec.levelsAt
    have hresolve : (resolve setup name tokens).1 = mergeLevels levels := by
      rw [resolve_eq, hread]
      rfl
    refine ⟨hwellFormed, hfree, fun n => ?_, fun hlog => ?_, fun ht => ?_⟩
    · exact (merges_mergeAllAt n hwellFormed.toInRange fun root hroot => (hfree root hroot).1).1
    · obtain ⟨t, ht, -⟩ := exists_ok_of_mergeLog hlevels hlog
      exact ⟨t, hresolve.trans ht⟩
    · exact followed_of_mergeLevels hlevels.ne_nil hwellFormed.toInRange
        (fun root hroot => (hfree root hroot).1) (hresolve.symm.trans ht)

/-- Layouts that share a block inside the loop of another one. -/
def tableLayouts : Setup where
  sources := [
    ("page.liquid", extendsSource "base" (blockSource "row" (superSource ++ "!"))),
    ("base.liquid", blockSource "table" (tagSource "for r in rows" ++ blockSource "row" "x" ++
      tagSource "else" ++ "none" ++ tagSource "endfor"))]

/-- The content of a block with a branch for each case. -/
def choiceSource : String :=
  tagSource "if a" ++ superSource ++ tagSource "elsif b" ++ tagSource "raw" ++ "-" ++
    tagSource "endraw" ++ tagSource "else" ++ tagSource "endif"

/-- A chain with a block in a loop and branches of conditions is read, merged, outlined and rendered
without a fault. -/
theorem handles_in_range_tables :
    (∃ a' root, Arena.WellFormed {} ∧
      Draft.readInto {} (tokensOf choiceSource) = .ok (a', root) ∧ a'.WellFormed ∧
        FreeBody a' root ∧ ∀ b, ∃ nodes, a'.tree? b = some nodes) ∧
    tableLayouts.tags = TagKind.builtin ∧
    ∃ levels t, readChain tableLayouts none
        (tokensOf (extendsSource "page" (blockSource "row" choiceSource))) = .ok levels ∧
      (resolve tableLayouts none
        (tokensOf (extendsSource "page" (blockSource "row" choiceSource)))).1 = .ok t ∧
      t.arena.cells.size = 12 ∧ mergeLevelsAt levels = .ok (t.arena, t.root) ∧ t.Followed := by
  have hread : (Draft.readInto {} (tokensOf choiceSource)).toOption.map
      (fun stored => (stored.1.cells.size, stored.1.bodies.size)) = some (3, 4) := by
    decide +kernel
  have hresolve : (resolve tableLayouts none
      (tokensOf (extendsSource "page" (blockSource "row" choiceSource)))).1.toOption.map
      (fun t => t.arena.cells.size) = some 12 := by
    decide +kernel
  obtain ⟨⟨a', root⟩, hstored, -⟩ := exists_ok_of_map_toOption hread
  obtain ⟨t, ht, hsize⟩ := exists_ok_of_map_toOption hresolve
  obtain ⟨hreads, hchains⟩ := handles_in_range (rfl : tableLayouts.tags = TagKind.builtin)
  have ht' := ht
  rw [resolve_eq] at ht'
  obtain ⟨levels, hlevels, -⟩ := ok_of_bind_eq_ok ht'
  exact ⟨⟨a', root, wellFormed_empty, hstored, (hreads {} _).2 a' root wellFormed_empty hstored⟩,
    rfl, levels, t, hlevels, ht, hsize, (hchains none _ levels hlevels).template ht⟩

end Template

end Stencil
