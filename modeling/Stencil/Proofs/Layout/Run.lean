import Stencil.Proofs.Layout.Levels

/-!
# The walk of a merge

A merge as a walk over a worklist (`Merging.Run`) that says which blocks it merges, in order.  Every
merge that ends is such a walk (`Merging.run_of_mergeIn`), the walk is the only one
(`Merging.Run.unique`), and merging these blocks one after the other gives the state at its end
(`Merging.Run.settleAll`).  `Template.MergeLog` is the walk of a chain: the blocks that the levels
below the last layout merge, and then those that the layout merges.
-/

set_option autoImplicit false

namespace Stencil

namespace Merging

open Arena

/-- What a merge still has to walk over. -/
inductive Task where
  | node (id : NodeId)
  | body (b : BodyId)

/-- Walking over some tasks to their end merges some blocks.  The nodes of a block are walked over
as they are when the block has just been merged. -/
inductive Run : List Task → Merging → List (String × BodyId) → Merging → Prop
  | done (m : Merging) : Run [] m [] m
  | body {b : BodyId} {rest : List Task} {m m' : Merging} {vs : List (String × BodyId)}
      (h : Run ((m.arena.body b).map .node ++ rest) m vs m') : Run (.body b :: rest) m vs m'
  | block {id : NodeId} {x : String} {own : BodyId} {rest : List Task} {m m' : Merging}
      {vs : List (String × BodyId)} (hblock : m.arena.block? id = some (x, own))
      (h : Run (((m.settle x own).arena.body own).map .node ++ rest) (m.settle x own) vs m') :
      Run (.node id :: rest) m ((x, own) :: vs) m'
  | tag {id : NodeId} {rest : List Task} {m m' : Merging} {vs : List (String × BodyId)}
      (hblock : m.arena.block? id = none)
      (h : Run ((m.arena.children id).map .body ++ rest) m vs m') : Run (.node id :: rest) m vs m'

section Run

variable {tasks rest : List Task} {m m' m₁ m₂ : Merging} {us vs vs₁ vs₂ : List (String × BodyId)}

/-- A walk is determined by its tasks and the state that it begins in. -/
theorem Run.unique (h₁ : Run tasks m vs₁ m₁) (h₂ : Run tasks m vs₂ m₂) : vs₁ = vs₂ ∧ m₁ = m₂ := by
  induction h₁ generalizing vs₂ m₂ with
  | done => cases h₂; exact ⟨rfl, rfl⟩
  | body _ ih =>
    cases h₂ with
    | body h₂ => exact ih h₂
  | block hblock _ ih =>
    cases h₂ with
    | block hblock' h₂ =>
      cases hblock.symm.trans hblock'
      obtain ⟨rfl, rfl⟩ := ih h₂
      exact ⟨rfl, rfl⟩
    | tag hblock' => simp [hblock] at hblock'
  | tag hblock _ ih =>
    cases h₂ with
    | block hblock' => simp [hblock] at hblock'
    | tag _ h₂ => exact ih h₂

/-- A walk does nothing but merge its blocks one after the other. -/
theorem Run.settleAll (h : Run tasks m vs m') : m' = m.settleAll vs := by
  induction h with
  | done => rfl
  | body _ ih => exact ih
  | block _ _ ih => exact ih
  | tag _ _ ih => exact ih

/-- The blocks that a walk merges are blocks of the arena. -/
theorem Run.owns {a : Arena} (ha : Forest a) (h : Run tasks m vs m') (hm : Over a m) :
    ∀ v ∈ vs, Owns a v.1 v.2 := by
  induction h with
  | done => simp
  | body _ ih => exact ih hm
  | @block id x own rest m m' vs hblock _ ih =>
    rw [hm.block?] at hblock
    have hown : Owns a x own := ⟨id, hblock⟩
    exact List.forall_mem_cons.2 ⟨hown, ih (settle_spec ha hm hown).isOver⟩
  | tag _ _ ih => exact ih hm

/-- A walk over some tasks goes on with a walk over further ones. -/
theorem Run.append (h₁ : Run tasks m us m₁) (h₂ : Run rest m₁ vs m₂) :
    Run (tasks ++ rest) m (us ++ vs) m₂ := by
  induction h₁ with
  | done => exact h₂
  | body _ ih =>
    have ih := ih h₂
    rw [List.append_assoc] at ih
    exact .body ih
  | block hblock _ ih =>
    have ih := ih h₂
    rw [List.append_assoc] at ih
    exact .block hblock ih
  | tag hblock _ ih =>
    have ih := ih h₂
    rw [List.append_assoc] at ih
    exact .tag hblock ih

/-- A loop each of whose rounds is a walk is a walk. -/
theorem run_of_foldlM {α : Type} {f : Merging → α → Option Merging} {task : α → Task}
    (hf : ∀ s e s', f s e = some s' → ∃ us, Run [task e] s us s') {l : List α}
    (h : l.foldlM f m = some m') : ∃ us, Run (l.map task) m us m' := by
  induction l generalizing m with
  | nil =>
    cases h
    exact ⟨[], .done _⟩
  | cons e l ih =>
    rw [List.foldlM_cons] at h
    obtain ⟨m₁, hfirst, hrest⟩ := Option.bind_eq_some_iff.1 h
    obtain ⟨us, hus⟩ := hf m e m₁ hfirst
    obtain ⟨vs, hvs⟩ := ih hrest
    exact ⟨us ++ vs, hus.append hvs⟩

/-- Merging below a body is a walk. -/
theorem run_of_mergeIn {n : Nat} {b : BodyId} (h : mergeIn n b m = some m') :
    ∃ us, Run [.body b] m us m' := by
  induction n generalizing b m m' with
  | zero => simp [mergeIn] at h
  | succ n ih =>
    rw [mergeIn_succ] at h
    have hnode : ∀ s id s', mergeNode n s id = some s' → ∃ us, Run [.node id] s us s' := by
      intro s id s' h
      unfold mergeNode at h
      split at h
      · next x own hblock =>
        obtain ⟨us, hus⟩ := ih h
        cases hus with
        | body hus => exact ⟨(x, own) :: us, .block hblock hus⟩
      · next hblock =>
        obtain ⟨us, hus⟩ := run_of_foldlM (f := fun m b => mergeIn n b m) (fun _ _ _ => ih) h
        refine ⟨us, .tag hblock ?_⟩
        rw [List.append_nil]
        exact hus
    obtain ⟨us, hus⟩ := run_of_foldlM hnode h
    refine ⟨us, .body ?_⟩
    rw [List.append_nil]
    exact hus

/-- Merging the blocks below some bodies is a walk over these bodies. -/
theorem run_of_foldl_mergeIn {n : Nat} {bs : List BodyId}
    (h : bs.foldlM (fun m b => mergeIn n b m) m = some m') :
    ∃ us, Run (bs.map .body) m us m' := by
  refine run_of_foldlM ?_ h
  exact fun _ _ _ => run_of_mergeIn

end Run

end Merging

namespace Template

open Arena Merging

/-- The blocks that merging some levels merges, in order: first those that it meets in the levels
below the last layout, then those that it meets in that layout.  A single level is not merged. -/
inductive MergeLog (levels : List (List Node)) :
    Arena → List (String × BodyId) → List (String × BodyId) → Prop
  | single {a : Arena} {root : BodyId} (hstored : storeLevels levels {} = (a, [root])) :
      MergeLog levels a [] []
  | chain {a : Arena} {lower : List BodyId} {root : BodyId} {m m' : Merging}
      {earlier last : List (String × BodyId)}
      (hstored : storeLevels levels {} = (a, lower ++ [root]))
      (hlower : lower ≠ []) (hearlier : Run (lower.map .body) { arena := a } earlier m)
      (hlast : Run [.body root] m last m') : MergeLog levels a earlier last

/-- The arena of a log is the one that the levels are stored in. -/
theorem MergeLog.arena_eq {levels : List (List Node)} {a : Arena}
    {earlier last : List (String × BodyId)} (h : MergeLog levels a earlier last) :
    (storeLevels levels {}).1 = a := by
  cases h with
  | single hstored => rw [hstored]
  | chain hstored => rw [hstored]

/-- The blocks of a log are blocks of the arena. -/
theorem MergeLog.owns {levels : List (List Node)} {a : Arena} (ha : Forest a)
    {earlier last : List (String × BodyId)} (h : MergeLog levels a earlier last) :
    ∀ v ∈ earlier ++ last, Owns a v.1 v.2 := by
  cases h with
  | single => simp
  | chain _ _ hearlier hlast =>
    have howns := hearlier.owns ha (Over.start a)
    have hm := (Over.start a).settleAll ha howns
    rw [← hearlier.settleAll] at hm
    intro v hv
    rcases List.mem_append.1 hv with hv | hv
    · exact howns v hv
    · exact hlast.owns ha hm v hv

/-- Levels have one log. -/
theorem MergeLog.unique {levels : List (List Node)} {a₁ a₂ : Arena}
    {earlier₁ earlier₂ last₁ last₂ : List (String × BodyId)}
    (h₁ : MergeLog levels a₁ earlier₁ last₁)
    (h₂ : MergeLog levels a₂ earlier₂ last₂) : a₁ = a₂ ∧ earlier₁ = earlier₂ ∧ last₁ = last₂ := by
  cases h₁ with
  | single hstored =>
    cases h₂ with
    | single hstored' =>
      cases hstored.symm.trans hstored'
      exact ⟨rfl, rfl, rfl⟩
    | chain hstored' hlower =>
      have hroots : [] ++ [_] = _ ++ [_] := (Prod.mk.inj (hstored.symm.trans hstored')).2
      exact absurd (List.append_inj' hroots rfl).1.symm hlower
  | chain hstored hlower hearlier hlast =>
    cases h₂ with
    | single hstored' =>
      have hroots : [] ++ [_] = _ ++ [_] := (Prod.mk.inj (hstored'.symm.trans hstored)).2
      exact absurd (List.append_inj' hroots rfl).1.symm hlower
    | chain hstored' _ hearlier' hlast' =>
      obtain ⟨rfl, hroots⟩ := Prod.mk.inj (hstored.symm.trans hstored')
      obtain ⟨rfl, hroot⟩ := List.append_inj' hroots rfl
      cases hroot
      obtain ⟨rfl, rfl⟩ := hearlier.unique hearlier'
      obtain ⟨rfl, rfl⟩ := hlast.unique hlast'
      exact ⟨rfl, rfl, rfl⟩

/-- Levels that have a template were merged by a walk, and the arena of the template is what the
walk made of the stored levels. -/
theorem exists_mergeLog {levels : List (List Node)} {t : Template} (hne : levels ≠ [])
    (ht : mergeLevels levels = .ok t) : ∃ a earlier last, MergeLog levels a earlier last ∧
      t.arena = (settleAll { arena := a } (earlier ++ last)).arena := by
  obtain ⟨below, root, rfl⟩ := exists_concat hne
  have hlength := length_storeLevels (below ++ [root]) {}
  obtain ⟨-, hcases⟩ := mergeLevels_cases ht
  cases hstored : storeLevels (below ++ [root]) {} with
  | mk a roots =>
    rw [hstored] at hlength hcases
    dsimp only at hlength hcases
    have hroots : roots ≠ [] := by
      rintro rfl
      simp at hlength
    rw [← List.dropLast_concat_getLast hroots] at hstored hcases
    generalize roots.dropLast = lower at hstored hcases
    generalize roots.getLast hroots = r at hstored hcases
    rw [List.length_append, List.length_singleton] at hcases
    rcases hcases with ⟨hone, harena⟩ | ⟨hmany, m, hm, harena⟩
    · obtain rfl : lower = [] := List.length_eq_zero_iff.1 (by omega)
      exact ⟨a, [], [], .single hstored, harena⟩
    · rw [mergeAll, List.foldlM_append] at hm
      obtain ⟨m₁, hearlier, hlast⟩ := Option.bind_eq_some_iff.1 hm
      obtain ⟨earlier, hearlier⟩ := run_of_foldl_mergeIn hearlier
      obtain ⟨last, hlast⟩ := run_of_foldl_mergeIn hlast
      have hlower : lower ≠ [] := by
        rintro rfl
        simp at hmany
      refine ⟨a, earlier, last, .chain hstored hlower hearlier hlast, ?_⟩
      rw [harena, settleAll_append, ← hearlier.settleAll, ← hlast.settleAll]

/-- Merging levels changes no nodes. -/
theorem cells_of_mergeLevels {levels : List (List Node)} {t : Template} (hread : LevelsRead levels)
    (ht : mergeLevels levels = .ok t) : t.arena.cells = (storeLevels levels {}).1.cells := by
  obtain ⟨a, earlier, last, hlog, harena⟩ := exists_mergeLog hread.ne_nil ht
  have hforest := (storeLevels_spec forest_empty hread.shaped).forest
  rw [hlog.arena_eq] at hforest ⊢
  rw [harena]
  exact ((Over.start a).settleAll hforest (hlog.owns hforest)).cells

end Template

end Stencil
