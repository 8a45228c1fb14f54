import Stencil.Layout.Merge
import Stencil.Proofs.Arena.Forest
import Mathlib.Data.List.Induction

/-!
# Merging one block

What merging a block does to the state of the merge (`Merging.settle_spec`): afterwards the block
holds the canonical content of its name, that content is a blend of the one before with the nodes of
the block, and no body of another block is touched.  `Merging.Over` collects what a merge never
changes: the nodes, the number of bodies and every body that is not the body of a block.
-/

set_option autoImplicit false

namespace Stencil

/-- Setting a body changes that one only. -/
theorem Arena.body_setBody {a : Arena} {b : BodyId} (h : b.index < a.bodies.size)
    (nodes : List NodeId) (b' : BodyId) :
    (a.setBody b nodes).body b' = if b' = b then nodes else a.body b' := by
  simp only [Arena.body, Arena.setBody, Array.getElem?_setIfInBounds]
  by_cases hb : b' = b
  · subst hb
    simp [h]
  · have hindex : ¬ b.index = b'.index := by
      intro e
      cases b
      cases b'
      exact hb (by simpa using e.symm)
    rw [if_neg hb, if_neg hindex]

namespace Merging

open Arena

/-- The canonical content of a name. -/
def content? (m : Merging) (x : String) : Option (List NodeId) :=
  (Dict.find? x m.canonical).map m.arena.body

/-- The state after merging some blocks one after the other. -/
def settleAll (m : Merging) (blocks : List (String × BodyId)) : Merging :=
  blocks.foldl (fun m v => m.settle v.1 v.2) m

/-- Merging no blocks changes nothing. -/
@[simp] theorem settleAll_nil (m : Merging) : m.settleAll [] = m := rfl

/-- Blocks are merged one by one. -/
@[simp] theorem settleAll_cons (m : Merging) (v : String × BodyId) (vs : List (String × BodyId)) :
    m.settleAll (v :: vs) = (m.settle v.1 v.2).settleAll vs := rfl

/-- Blocks are merged in two parts. -/
theorem settleAll_append (m : Merging) (us vs : List (String × BodyId)) :
    m.settleAll (us ++ vs) = (m.settleAll us).settleAll vs := by
  simp only [settleAll, List.foldl_append]

/-- The content of a name after a block with the given nodes was merged. -/
def blend (isMark : NodeId → Bool) (kids : List NodeId) : Option (List NodeId) → List NodeId
  | none => kids
  | some content => if kids = content then content else substFirst isMark kids content

/-- A state in the merge of the blocks of an arena: apart from canonical bodies, only the bodies of
blocks may have changed. -/
structure Over (a : Arena) (m : Merging) : Prop where
  cells : m.arena.cells = a.cells
  size : m.arena.bodies.size = a.bodies.size
  plain : ∀ {b}, (∀ x, ¬ Owns a x b) → m.arena.body b = a.body b
  /-- The canonical body of a name is that of a block of the name. -/
  owns : ∀ {x b}, Dict.find? x m.canonical = some b → Owns a x b

section Over

variable {a : Arena} {m : Merging}

/-- A merge begins with the arena itself. -/
theorem Over.start (a : Arena) : Over a { arena := a } :=
  ⟨rfl, rfl, fun _ => rfl, fun h => by simp [Dict.find?] at h⟩

/-- A merge changes no node. -/
theorem Over.cell? (h : Over a m) : m.arena.cell? = a.cell? := by
  funext id
  simp only [Arena.cell?, h.cells]

/-- A merge changes no node's bodies. -/
theorem Over.children (h : Over a m) : m.arena.children = a.children := by
  funext id
  simp only [Arena.children, h.cell?]

/-- A merge makes no block and changes none. -/
theorem Over.block? (h : Over a m) : m.arena.block? = a.block? := by
  funext id
  simp only [Arena.block?, h.cell?]

/-- A merge makes no mark and changes none. -/
theorem Over.isBlockSuper (h : Over a m) : m.arena.isBlockSuper = a.isBlockSuper := by
  funext id
  simp only [Arena.isBlockSuper, h.cell?]

end Over

/-- What merging a block under a name changes. -/
structure Settled (a : Arena) (m m' : Merging) (x : String) (own : BodyId) : Prop where
  isOver : Over a m'
  /-- The block holds the canonical content. -/
  own_eq : m'.content? x = some (m'.arena.body own)
  content_eq : m'.content? x = some (blend a.isBlockSuper (m.arena.body own) (m.content? x))
  canonical_eq : Dict.find? x m'.canonical = some ((Dict.find? x m.canonical).getD own)
  canonical_other : ∀ {y}, y ≠ x → Dict.find? y m'.canonical = Dict.find? y m.canonical
  body_other : ∀ {b}, b ≠ own → Dict.find? x m.canonical ≠ some b →
    m'.arena.body b = m.arena.body b

/-- Merging a block of the arena. -/
theorem settle_spec {a : Arena} (ha : Forest a) {m : Merging} (hm : Over a m) {x : String}
    {own : BodyId} (hown : Owns a x own) : Settled a m (m.settle x own) x own := by
  have hlt : own.index < m.arena.bodies.size := hm.size ▸ ha.lt_of_owns hown
  unfold settle
  cases hfind : Dict.find? x m.canonical with
  | none =>
    have hself := Dict.find?_insert_self x own m.canonical
    refine ⟨⟨hm.cells, hm.size, hm.plain, ?_⟩, ?_, ?_, ?_, ?_, fun _ _ => rfl⟩
    · intro y b hb
      by_cases hy : y = x
      · subst hy
        rw [hself] at hb
        cases hb
        exact hown
      · rw [Dict.find?_insert_of_ne hy] at hb
        exact hm.owns hb
    · simp only [content?, hself, Option.map_some]
    · simp only [content?, hself, hfind, Option.map_some, Option.map_none, blend]
    · simp only [hself, hfind, Option.getD_none]
    · intro y hy
      exact Dict.find?_insert_of_ne hy own m.canonical
  | some target =>
    dsimp only
    have htarget : target.index < m.arena.bodies.size := hm.size ▸ ha.lt_of_owns (hm.owns hfind)
    have hcontent : m.content? x = some (m.arena.body target) := by
      simp only [content?, hfind, Option.map_some]
    by_cases heq : m.arena.body own = m.arena.body target
    · rw [if_pos (Or.inr heq)]
      refine ⟨hm, ?_, ?_, ?_, fun _ => rfl, fun _ _ => rfl⟩
      · rw [hcontent, heq]
      · rw [hcontent, heq]
        simp only [blend, if_true]
      · simp only [hfind, Option.getD_some]
    · have hne : target ≠ own := fun e => heq (e ▸ rfl)
      rw [if_neg (by simp [hne, heq])]
      generalize hmerged : substFirst m.arena.isBlockSuper (m.arena.body own)
        (m.arena.body target) = merged
      have hbody (b : BodyId) : ((m.arena.setBody target merged).setBody own merged).body b =
          if b = own then merged else if b = target then merged else m.arena.body b := by
        rw [body_setBody (by simpa [setBody] using hlt), body_setBody htarget]
      have hnew : (Option.map ((m.arena.setBody target merged).setBody own merged).body
          (Dict.find? x m.canonical)) = some merged := by
        simp [hfind, hbody]
      refine ⟨⟨hm.cells, ?_, ?_, hm.owns⟩, ?_, ?_, ?_, fun _ => rfl, ?_⟩
      · simpa [setBody] using hm.size
      · intro b hb
        have hb₁ : b ≠ own := fun e => hb x (e ▸ hown)
        have hb₂ : b ≠ target := fun e => hb x (e ▸ hm.owns hfind)
        simp only [hbody, if_neg hb₁, if_neg hb₂]
        exact hm.plain hb
      · simp only [content?, hnew, hbody, if_true]
      · rw [hcontent]
        simp only [content?, hnew, blend, if_neg heq, ← hm.isBlockSuper, hmerged]
      · simp only [hfind, Option.getD_some]
      · intro b hb₁ hb₂
        have hb₂ : b ≠ target := fun e => hb₂ (e ▸ hfind)
        simp only [hbody, if_neg hb₁, if_neg hb₂]

section Frame

variable {a : Arena} {m : Merging} {vs : List (String × BodyId)}

/-- After a block was merged, every body is as before or has the nodes of the block. -/
theorem Settled.body_eq_or {m' : Merging} {x : String} {own : BodyId} (h : Settled a m m' x own)
    (b : BodyId) : m'.arena.body b = m'.arena.body own ∨ m'.arena.body b = m.arena.body b := by
  by_cases hself : b = own
  · exact .inl (by rw [hself])
  · by_cases hfind : Dict.find? x m.canonical = some b
    · have hcontent : m'.content? x = some (m'.arena.body b) := by
        simp [content?, h.canonical_eq, hfind]
      exact .inl (Option.some.inj (hcontent.symm.trans h.own_eq))
    · exact .inr (h.body_other hself hfind)

/-- Merging a block leaves the bodies of blocks of other names. -/
theorem Settled.body_of_ne {m' : Merging} {x y : String} {own b : BodyId}
    (h : Settled a m m' x own) (ha : Forest a) (hm : Over a m) (hown : Owns a x own) (hy : y ≠ x)
    (hb : Owns a y b) : m'.arena.body b = m.arena.body b := by
  refine h.body_other (fun e => ?_) fun hfind => ?_
  · exact hy (ha.owns_unique (e ▸ hb) hown)
  · exact hy (ha.owns_unique hb (hm.owns hfind))

/-- Merging a block leaves the content of other names. -/
theorem Settled.content_of_ne {m' : Merging} {x y : String} {own : BodyId}
    (h : Settled a m m' x own) (ha : Forest a) (hm : Over a m) (hown : Owns a x own)
    (hy : y ≠ x) : m'.content? y = m.content? y := by
  unfold content?
  rw [h.canonical_other hy]
  cases hfind : Dict.find? y m.canonical with
  | none => rfl
  | some b => simp only [Option.map_some, h.body_of_ne ha hm hown hy (hm.owns hfind)]

/-- Merging blocks leaves a state of the merge of the arena. -/
theorem Over.settleAll (ha : Forest a) (hm : Over a m) (hvs : ∀ v ∈ vs, Owns a v.1 v.2) :
    Over a (m.settleAll vs) := by
  induction vs generalizing m with
  | nil => exact hm
  | cons v vs ih =>
    rw [settleAll_cons]
    exact ih (settle_spec ha hm (hvs v (List.mem_cons_self ..))).isOver
      fun w hw => hvs w (List.mem_cons_of_mem _ hw)

/-- Merging blocks leaves the bodies of blocks of other names. -/
theorem body_settleAll_of_ne (ha : Forest a) (hm : Over a m) (hvs : ∀ v ∈ vs, Owns a v.1 v.2)
    {y : String} {b : BodyId} (hb : Owns a y b) (hy : ∀ v ∈ vs, y ≠ v.1) :
    (m.settleAll vs).arena.body b = m.arena.body b := by
  induction vs generalizing m with
  | nil => rfl
  | cons v vs ih =>
    have hown := hvs v (List.mem_cons_self ..)
    have hstep := settle_spec ha hm hown
    rw [settleAll_cons, ih hstep.isOver (fun w hw => hvs w (List.mem_cons_of_mem _ hw))
      fun w hw => hy w (List.mem_cons_of_mem _ hw)]
    exact hstep.body_of_ne ha hm hown (hy v (List.mem_cons_self ..)) hb

/-- Merging blocks leaves the content of other names. -/
theorem content_settleAll_of_ne (ha : Forest a) (hm : Over a m) (hvs : ∀ v ∈ vs, Owns a v.1 v.2)
    {y : String} (hy : ∀ v ∈ vs, y ≠ v.1) : (m.settleAll vs).content? y = m.content? y := by
  induction vs generalizing m with
  | nil => rfl
  | cons v vs ih =>
    have hown := hvs v (List.mem_cons_self ..)
    have hstep := settle_spec ha hm hown
    rw [settleAll_cons, ih hstep.isOver (fun w hw => hvs w (List.mem_cons_of_mem _ hw))
      fun w hw => hy w (List.mem_cons_of_mem _ hw)]
    exact hstep.content_of_ne ha hm hown (hy v (List.mem_cons_self ..))

/-- The canonical body of a name is that of a block that was merged. -/
theorem mem_of_canonical_settleAll (ha : Forest a) (hvs : ∀ v ∈ vs, Owns a v.1 v.2) {x : String}
    {b : BodyId} (h : Dict.find? x (settleAll { arena := a } vs).canonical = some b) :
    (x, b) ∈ vs := by
  induction vs using List.reverseRecOn with
  | nil => simp [Dict.find?] at h
  | append_singleton us v ih =>
    have hus : ∀ w ∈ us, Owns a w.1 w.2 := fun w hw => hvs w (List.mem_append_left _ hw)
    have hstep := settle_spec ha ((Over.start a).settleAll ha hus) (hvs v (by simp))
    rw [settleAll_append, settleAll_cons, settleAll_nil] at h
    by_cases hx : x = v.1
    · subst hx
      rw [hstep.canonical_eq] at h
      cases hold : Dict.find? v.1 (settleAll { arena := a } us).canonical with
      | none =>
        rw [hold] at h
        cases h
        simp
      | some target =>
        rw [hold] at h
        cases h
        exact List.mem_append_left _ (ih hus hold)
    · rw [hstep.canonical_other hx] at h
      exact List.mem_append_left _ (ih hus h)

/-- A body stays as it was stored until its block is merged. -/
theorem body_settleAll_of_unmerged (ha : Forest a) (hvs : ∀ v ∈ vs, Owns a v.1 v.2) {b : BodyId}
    (hb : b ∉ vs.map Prod.snd) : (settleAll { arena := a } vs).arena.body b = a.body b := by
  induction vs using List.reverseRecOn with
  | nil => rfl
  | append_singleton us v ih =>
    have hus : ∀ w ∈ us, Owns a w.1 w.2 := fun w hw => hvs w (List.mem_append_left _ hw)
    have hstep := settle_spec ha ((Over.start a).settleAll ha hus) (hvs v (by simp))
    simp only [List.map_append, List.map_cons, List.map_nil, List.mem_append, List.mem_singleton,
      not_or] at hb
    rw [settleAll_append, settleAll_cons, settleAll_nil]
    refine (hstep.body_other hb.2 fun hfind => hb.1 ?_).trans (ih hus hb.1)
    exact List.mem_map_of_mem (mem_of_canonical_settleAll ha hus hfind)

end Frame

/-- Merges what stands at a node: a block and then its new nodes, or the bodies of any other tag. -/
def mergeNode (n : Nat) (m : Merging) (id : NodeId) : Option Merging :=
  match m.arena.block? id with
  | some (name, own) => mergeIn n own (m.settle name own)
  | none => (m.arena.children id).foldlM (fun m b => mergeIn n b m) m

/-- The blocks below a body are merged node by node. -/
theorem mergeIn_succ (n : Nat) (b : BodyId) (m : Merging) :
    mergeIn (n + 1) b m = (m.arena.body b).foldlM (mergeNode n) m := rfl

end Merging

end Stencil
