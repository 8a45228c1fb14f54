import Stencil.Layout.Merge
import Mathlib.Data.List.Nodup
import Mathlib.Data.List.Count
import Mathlib.Data.List.Induction

/-!
# Overlaying contents

The content of a block over all levels of a chain is a left fold (`overlay`): the most derived
content comes first, and each further one takes the place of the first mark that is left.  The
content of the nearest ancestor is a right fold (`nearest`): every mark of a content stands for what
the rest of the chain makes of the block.  `overlay_eq_nearest_iff` says when the two agree: along
the chain no content has more than one mark, until one has none (`MarksMet`).  A content with
several marks can only agree when there is nothing to put in their places.
-/

set_option autoImplicit false

namespace Stencil

section Subst

variable {α : Type} {isMark : α → Bool} {kids : List α}

/-- Without a mark, nothing is replaced. -/
theorem substFirst_of_forall {content : List α} (h : ∀ a ∈ content, isMark a = false) :
    substFirst isMark kids content = content := by
  induction content with
  | nil => rfl
  | cons a rest ih =>
    have ha := h a (List.mem_cons_self ..)
    have hrest := ih fun b hb => h b (List.mem_cons_of_mem _ hb)
    simp only [substFirst, ha, hrest, Bool.false_eq_true, if_false]

/-- The first mark is replaced where it stands between others. -/
theorem substFirst_between {before after : List α} (hb : ∀ a ∈ before, isMark a = false)
    (ha : ∀ a ∈ after, isMark a = false) (content : List α) :
    substFirst isMark kids (before ++ content ++ after) =
      before ++ substFirst isMark kids content ++ after := by
  induction before with
  | nil =>
    simp only [List.nil_append]
    induction content with
    | nil => exact substFirst_of_forall ha
    | cons c rest ih =>
      by_cases hc : isMark c = true
      · simp only [List.cons_append, substFirst, hc, if_true, List.append_assoc]
      · simp only [List.cons_append, substFirst, hc, ih, Bool.false_eq_true, if_false]
  | cons b rest ih =>
    have hmark := hb b (List.mem_cons_self ..)
    have hrest := ih fun c hc => hb c (List.mem_cons_of_mem _ hc)
    simp only [List.cons_append, substFirst, hmark, hrest, Bool.false_eq_true, if_false]

/-- What replaces a mark and what was there are all there is. -/
theorem mem_of_mem_substFirst {content : List α} {a : α} (h : a ∈ substFirst isMark kids content) :
    a ∈ content ∨ a ∈ kids := by
  induction content with
  | nil => simp [substFirst] at h
  | cons c rest ih =>
    simp only [substFirst] at h
    split at h
    · rcases List.mem_append.1 h with h | h
      · exact .inr h
      · exact .inl (List.mem_cons_of_mem _ h)
    · rcases List.mem_cons.1 h with rfl | h
      · exact .inl (List.mem_cons_self ..)
      · exact (ih h).imp_left (List.mem_cons_of_mem _)

/-- No element but a mark is replaced. -/
theorem mem_substFirst_of_mem {content : List α} {a : α} (hmark : isMark a = false)
    (h : a ∈ content) : a ∈ substFirst isMark kids content := by
  induction content with
  | nil => simp at h
  | cons c rest ih =>
    simp only [substFirst]
    rcases List.mem_cons.1 h with rfl | h
    · rw [hmark]
      exact List.mem_cons_self ..
    · split
      · exact List.mem_append_right _ h
      · exact List.mem_cons_of_mem _ (ih h)

/-- Elements that are no marks are as many as before, and those that replace a mark. -/
theorem countP_substFirst (isMark : α → Bool) {p : α → Bool}
    (hp : ∀ a, p a = true → isMark a = false) (kids content : List α) :
    (substFirst isMark kids content).countP p =
      content.countP p + if content.any isMark then kids.countP p else 0 := by
  induction content with
  | nil => simp [substFirst]
  | cons c rest ih =>
    by_cases hc : isMark c = true
    · have hpc : ¬ p c = true := fun h => by simp [hp c h] at hc
      simp only [substFirst, hc, if_true, List.any_cons, Bool.true_or, List.countP_append,
        List.countP_cons_of_neg hpc]
      exact Nat.add_comm _ _
    · simp only [substFirst, hc, Bool.false_eq_true, if_false, List.any_cons, Bool.false_or,
        List.countP_cons, ih]
      omega

/-- Where a mark is replaced, one is gone and those that replace it have come. -/
theorem countP_mark_substFirst (kids : List α) {content : List α} (h : content.any isMark = true) :
    (substFirst isMark kids content).countP isMark + 1 =
      content.countP isMark + kids.countP isMark := by
  induction content with
  | nil => simp at h
  | cons c rest ih =>
    by_cases hc : isMark c = true
    · simp only [substFirst, hc, if_true, List.countP_append, List.countP_cons_of_pos]
      omega
    · have hrest : rest.any isMark = true := by simpa [hc] using h
      have := ih hrest
      simp only [substFirst, hc, Bool.false_eq_true, if_false, List.countP_cons]
      omega

/-- Replacing a mark repeats no element more than once. -/
theorem count_substFirst_le [DecidableEq α] (isMark : α → Bool) (kids content : List α) (a : α) :
    (substFirst isMark kids content).count a ≤ content.count a + kids.count a := by
  induction content with
  | nil => simp [substFirst]
  | cons c rest ih =>
    simp only [substFirst]
    split
    · simp only [List.count_append, List.count_cons]
      omega
    · simp only [List.count_cons]
      omega

/-- An element that is no mark occurs as often as before, or as often as in both lists. -/
theorem count_substFirst [DecidableEq α] {a : α} (ha : isMark a = false) (kids content : List α) :
    (substFirst isMark kids content).count a =
      content.count a + if content.any isMark then kids.count a else 0 := by
  refine countP_substFirst isMark (fun b hb => ?_) kids content
  rw [beq_iff_eq.1 hb]
  exact ha

end Subst

section Overlay

variable {α : Type} {isMark : α → Bool}

/-- The contents of a block over each other, the most derived one first: each further content takes
the place of the first mark. -/
def overlay (isMark : α → Bool) : List (List α) → Option (List α)
  | [] => none
  | content :: rest => some (rest.foldl (fun c b => substFirst isMark b c) content)

/-- A list with every mark replaced by some elements. -/
def substAll (isMark : α → Bool) (kids content : List α) : List α :=
  content.flatMap fun a => if isMark a then kids else [a]

/-- The first of some contents, where every mark stands for what the rest make of the block. -/
def nearest (isMark : α → Bool) : List (List α) → List α
  | [] => []
  | [content] => content
  | content :: rest => substAll isMark (nearest isMark rest) content

/-- Whether contents that are made of marks alone use up `n` marks and their own. -/
def Fills (isMark : α → Bool) : Nat → List (List α) → Prop
  | 0, _ => True
  | _ + 1, [] => False
  | n + 1, content :: rest =>
    (∀ a ∈ content, isMark a = true) ∧ Fills isMark (n + content.length) rest

/-- Whether the marks of some contents each meet the next content: every content before the last has
no mark, which ends the chain, or a single one, or several that are used up without being replaced
by anything. -/
def MarksMet (isMark : α → Bool) : List (List α) → Prop
  | [] => True
  | [_] => True
  | content :: rest =>
    match content.countP isMark with
    | 0 => True
    | 1 => MarksMet isMark rest
    | n + 2 => Fills isMark (n + 2) rest

/-- The last of some contents takes the place of the first mark that the others leave. -/
theorem overlay_concat (bodies : List (List α)) (b : List α) :
    overlay isMark (bodies ++ [b]) =
      some (match overlay isMark bodies with
        | none => b
        | some c => substFirst isMark b c) := by
  cases bodies with
  | nil => rfl
  | cons c rest => simp [overlay, List.foldl_append]

/-- Contents over each other hold only what one of them holds. -/
theorem mem_of_mem_overlay {bodies : List (List α)} {c : List α} {a : α}
    (h : overlay isMark bodies = some c) (ha : a ∈ c) : ∃ b ∈ bodies, a ∈ b := by
  induction bodies using List.reverseRecOn generalizing c with
  | nil => simp [overlay] at h
  | append_singleton bodies b ih =>
    rw [overlay_concat] at h
    cases hc : overlay isMark bodies with
    | none =>
      simp only [hc, Option.some.injEq] at h
      exact ⟨b, by simp, h ▸ ha⟩
    | some c' =>
      simp only [hc, Option.some.injEq] at h
      rcases mem_of_mem_substFirst (h ▸ ha) with ha | ha
      · obtain ⟨b', hb', ha⟩ := ih hc ha
        exact ⟨b', List.mem_append_left _ hb', ha⟩
      · exact ⟨b, by simp, ha⟩

/-- A content without marks is the same over any further ones. -/
theorem foldl_substFirst_of_forall {content : List α} (h : ∀ a ∈ content, isMark a = false)
    (rest : List (List α)) : rest.foldl (fun c b => substFirst isMark b c) content = content := by
  induction rest with
  | nil => rfl
  | cons b rest ih => rw [List.foldl_cons, substFirst_of_forall h, ih]

/-- Further contents take their place between elements that are no marks. -/
theorem foldl_substFirst_between {before after : List α} (hb : ∀ a ∈ before, isMark a = false)
    (ha : ∀ a ∈ after, isMark a = false) (rest : List (List α)) (content : List α) :
    rest.foldl (fun c b => substFirst isMark b c) (before ++ content ++ after) =
      before ++ rest.foldl (fun c b => substFirst isMark b c) content ++ after := by
  induction rest generalizing content with
  | nil => rfl
  | cons b rest ih => rw [List.foldl_cons, substFirst_between hb ha, ih, List.foldl_cons]

/-- Contents without common elements are laid over each other without repetition. -/
theorem nodup_foldl_substFirst [DecidableEq α] (isMark : α → Bool) {rest : List (List α)}
    {content : List α}
    (h : (content ++ rest.flatten).Nodup) :
    (rest.foldl (fun c b => substFirst isMark b c) content).Nodup := by
  induction rest generalizing content with
  | nil => simpa using h
  | cons b rest ih =>
    rw [List.foldl_cons]
    refine ih (List.nodup_iff_count_le_one.2 fun a => ?_)
    have hcount := List.nodup_iff_count_le_one.1 h a
    have hle := count_substFirst_le isMark b content a
    simp only [List.flatten_cons, List.count_append] at hcount ⊢
    omega

/-- The elements that are no marks are left when every mark is replaced by nothing. -/
theorem substAll_nil (content : List α) :
    substAll isMark [] content = content.filter fun a => !isMark a := by
  induction content with
  | nil => rfl
  | cons c rest ih =>
    simp only [substAll, List.flatMap_cons, List.filter_cons] at ih ⊢
    rw [ih]
    cases isMark c <;> rfl

/-- Marks are replaced in each of two parts. -/
theorem substAll_append (kids l₁ l₂ : List α) :
    substAll isMark kids (l₁ ++ l₂) = substAll isMark kids l₁ ++ substAll isMark kids l₂ := by
  simp only [substAll, List.flatMap_append]

/-- Without marks, nothing is replaced. -/
theorem substAll_of_forall {kids content : List α} (h : ∀ a ∈ content, isMark a = false) :
    substAll isMark kids content = content := by
  induction content with
  | nil => rfl
  | cons c rest ih =>
    have hc := h c (List.mem_cons_self ..)
    have hrest := ih fun b hb => h b (List.mem_cons_of_mem _ hb)
    simp only [substAll, List.flatMap_cons] at hrest ⊢
    rw [hrest, hc]
    rfl

/-- An element that replaces marks is there once for each of them. -/
theorem count_substAll_ge [DecidableEq α] (isMark : α → Bool) (kids content : List α) (a : α) :
    content.countP isMark * kids.count a ≤ (substAll isMark kids content).count a := by
  induction content with
  | nil => simp
  | cons c rest ih =>
    simp only [substAll, List.flatMap_cons, List.count_append] at ih ⊢
    by_cases hc : isMark c = true
    · rw [List.countP_cons_of_pos hc, if_pos hc, Nat.succ_mul]
      omega
    · rw [List.countP_cons_of_neg hc]
      omega

/-- Contents that use up some marks leave nothing to put in the place of a mark. -/
theorem nearest_of_fills {rest : List (List α)} {n : Nat} (h : Fills isMark (n + 1) rest) :
    nearest isMark rest = [] := by
  induction rest generalizing n with
  | nil => exact h.elim
  | cons b rest ih =>
    obtain ⟨hmarks, hfills⟩ := h
    cases b with
    | nil =>
      -- an empty content is all that a mark can stand for
      cases rest <;> rfl
    | cons s b =>
      have hrest : nearest isMark rest = [] := ih (n := n + b.length) (by
        rw [List.length_cons, ← Nat.add_assoc] at hfills
        exact hfills)
      cases rest with
      | nil =>
        rw [List.length_cons, ← Nat.add_assoc] at hfills
        exact hfills.elim
      | cons c rest =>
        rw [nearest, hrest, substAll_nil, List.filter_eq_nil_iff]
        · intro a ha
          simp [hmarks a ha]
        · simp

/-- With no marks counted, none is there. -/
theorem forall_of_countP_eq_zero {content : List α} (h : content.countP isMark = 0) :
    ∀ a ∈ content, isMark a = false := by
  intro a ha
  have hnot := List.countP_eq_zero.1 h a ha
  simpa using hnot

/-- With one mark counted, it stands between elements that are no marks. -/
theorem exists_of_countP_eq_one {content : List α} (h : content.countP isMark = 1) :
    ∃ before s after, content = before ++ [s] ++ after ∧ isMark s = true ∧
      (∀ a ∈ before, isMark a = false) ∧ ∀ a ∈ after, isMark a = false := by
  induction content with
  | nil => simp at h
  | cons c rest ih =>
    by_cases hc : isMark c = true
    · rw [List.countP_cons_of_pos hc] at h
      have hrest := forall_of_countP_eq_zero (Nat.succ.inj h)
      exact ⟨[], c, rest, rfl, hc, by simp, hrest⟩
    · rw [List.countP_cons_of_neg hc] at h
      obtain ⟨before, s, after, rfl, hs, hbefore, hafter⟩ := ih h
      refine ⟨c :: before, s, after, rfl, hs, ?_, hafter⟩
      exact List.forall_mem_cons.2 ⟨by simpa using hc, hbefore⟩

/-- Marks for a mark leave the other elements as they are. -/
theorem filter_substFirst {kids : List α} (h : ∀ a ∈ kids, isMark a = true) (content : List α) :
    ((substFirst isMark kids content).filter fun a => !isMark a) =
      content.filter fun a => !isMark a := by
  induction content with
  | nil => rfl
  | cons c rest ih =>
    by_cases hc : isMark c = true
    · have hkids : (kids.filter fun a => !isMark a) = [] := by
        rw [List.filter_eq_nil_iff]
        intro a ha
        simp [h a ha]
      simp only [substFirst, hc, if_true, List.filter_append, hkids, List.filter_cons,
        Bool.not_true, Bool.false_eq_true, if_false, List.nil_append]
    · simp only [substFirst, hc, Bool.false_eq_true, if_false, List.filter_cons, ih]

/-- A content whose marks are used up by the rest of the chain keeps what is no mark. -/
theorem foldl_substFirst_of_fills {rest : List (List α)} {content : List α}
    (h : Fills isMark (content.countP isMark) rest) :
    rest.foldl (fun c b => substFirst isMark b c) content = content.filter fun a => !isMark a := by
  induction rest generalizing content with
  | nil =>
    cases hn : content.countP isMark with
    | zero =>
      have hfree := forall_of_countP_eq_zero hn
      rw [List.foldl_nil, ← substAll_nil, substAll_of_forall hfree]
    | succ n =>
      rw [hn] at h
      exact h.elim
  | cons b rest ih =>
    cases hn : content.countP isMark with
    | zero =>
      have hfree := forall_of_countP_eq_zero hn
      rw [foldl_substFirst_of_forall hfree, ← substAll_nil, substAll_of_forall hfree]
    | succ n =>
      rw [hn] at h
      obtain ⟨hmarks, hfills⟩ := h
      have hany : content.any isMark = true := by
        rw [List.any_eq_true, ← List.countP_pos_iff]
        omega
      have hcount := countP_mark_substFirst b hany
      rw [List.countP_eq_length.2 hmarks] at hcount
      have hnext : (substFirst isMark b content).countP isMark = n + b.length := by omega
      rw [List.foldl_cons, ih (hnext ▸ hfills), filter_substFirst hmarks]

/-- No element that is no mark is lost. -/
theorem countP_le_foldl_substFirst (isMark : α → Bool) (rest : List (List α)) (content : List α) :
    (content.countP fun a => !isMark a) ≤
      (rest.foldl (fun c b => substFirst isMark b c) content).countP fun a => !isMark a := by
  induction rest generalizing content with
  | nil => exact Nat.le_refl _
  | cons b rest ih =>
    have hstep := countP_substFirst isMark (p := fun a => !isMark a)
      (fun a ha => by simpa using ha) b content
    have hrest := ih (substFirst isMark b content)
    rw [List.foldl_cons]
    omega

/-- A chain that leaves of a content what is no mark uses up its marks. -/
theorem fills_of_foldl_substFirst {rest : List (List α)} {content : List α}
    (h : rest.foldl (fun c b => substFirst isMark b c) content =
      content.filter fun a => !isMark a) : Fills isMark (content.countP isMark) rest := by
  induction rest generalizing content with
  | nil =>
    rw [List.foldl_nil] at h
    have hnone : content.countP isMark = 0 := by
      rw [List.countP_eq_zero, h]
      intro a ha
      simpa using (List.mem_filter.1 ha).2
    rw [hnone]
    trivial
  | cons b rest ih =>
    cases hn : content.countP isMark with
    | zero => trivial
    | succ n =>
      have hany : content.any isMark = true := by
        rw [List.any_eq_true, ← List.countP_pos_iff]
        omega
      have hstep := countP_substFirst isMark (p := fun a => !isMark a)
        (fun a ha => by simpa using ha) b content
      have hrest := countP_le_foldl_substFirst isMark rest (substFirst isMark b content)
      rw [List.foldl_cons] at h
      rw [h, List.countP_filter, hstep, if_pos hany] at hrest
      -- nothing but marks came in, for nothing else is left
      have hmarks : ∀ a ∈ b, isMark a = true := by
        have hzero : (b.countP fun a => !isMark a) = 0 := by
          simp only [Bool.and_self] at hrest
          omega
        intro a ha
        simpa using List.countP_eq_zero.1 hzero a ha
      refine ⟨hmarks, ?_⟩
      have hcount := countP_mark_substFirst b hany
      rw [List.countP_eq_length.2 hmarks] at hcount
      have hnext : (substFirst isMark b content).countP isMark = n + b.length := by omega
      rw [← filter_substFirst hmarks] at h
      have hfills := ih h
      rwa [hnext] at hfills

/-- Laying the contents of a block over each other gives the content of the nearest ancestor in the
place of every mark exactly when the marks each meet the next content. -/
theorem overlay_eq_nearest_iff [DecidableEq α] {bodies : List (List α)} (hne : bodies ≠ [])
    (h : bodies.flatten.Nodup) :
    overlay isMark bodies = some (nearest isMark bodies) ↔ MarksMet isMark bodies := by
  induction bodies with
  | nil => exact absurd rfl hne
  | cons content rest ih =>
    cases rest with
    | nil => simp [overlay, nearest, MarksMet]
    | cons b rest =>
      rw [List.flatten_cons] at h
      have ih := ih (List.cons_ne_nil _ _) (List.nodup_append.1 h).2.1
      simp only [overlay, nearest, MarksMet, Option.some.injEq] at ih ⊢
      split
      · next hcount =>
        have hfree := forall_of_countP_eq_zero hcount
        rw [foldl_substFirst_of_forall hfree, substAll_of_forall hfree]
        simp
      · next hcount =>
        -- the next content stands in the place of the only mark, and the rest goes on in it
        obtain ⟨before, s, after, rfl, hs, hbefore, hafter⟩ := exists_of_countP_eq_one hcount
        have hmark : substFirst isMark b [s] = b := by simp [substFirst, hs]
        have hall :
            substAll isMark (nearest isMark (b :: rest)) [s] = nearest isMark (b :: rest) := by
          simp [substAll, hs]
        rw [List.foldl_cons, substFirst_between hbefore hafter, hmark,
          foldl_substFirst_between hbefore hafter, substAll_append, substAll_append, hall,
          substAll_of_forall hbefore, substAll_of_forall hafter, ← ih]
        simp
      · next n hcount =>
        replace hcount : content.countP isMark = n + 2 := hcount
        constructor
        · intro heq
          -- what stands in the place of two marks occurs twice, and nothing does
          have hnil : nearest isMark (b :: rest) = [] := by
            by_contra hsome
            obtain ⟨a, ha⟩ := List.exists_mem_of_ne_nil _ hsome
            have hpos := List.count_pos_iff.2 ha
            have hge := count_substAll_ge isMark (nearest isMark (b :: rest)) content a
            have hle := List.nodup_iff_count_le_one.1 (nodup_foldl_substFirst isMark h) a
            rw [hcount] at hge
            rw [heq] at hle
            have hmul := Nat.mul_le_mul (Nat.le_add_left 2 n) (show 1 ≤ _ from hpos)
            have htwo := Nat.le_trans hmul hge
            omega
          rw [hnil, substAll_nil] at heq
          rw [← hcount]
          exact fills_of_foldl_substFirst heq
        · intro hfills
          rw [nearest_of_fills hfills, substAll_nil]
          exact foldl_substFirst_of_fills (hcount ▸ hfills)

end Overlay

end Stencil
