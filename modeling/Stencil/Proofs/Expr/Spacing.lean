import Stencil.Proofs.Expr.Spelling

/-!
# White space between lexemes

The lexemes of a text stand for consecutive slices of it, each of them taken as its lexeme to the
end (`Lexeme.IsTextOf`), and what is around the slices is white space (`Lexeme.exists_slices`).  No
lexeme goes on with white space, so each slice ends where it did in front of any other gap, as long
as the gap is not empty (`Lexeme.lex_spaced`).  The gaps of a text can thus be chosen anew without a
change to its lexemes (`Lexeme.lex_respaced`).
-/

set_option autoImplicit false

namespace Stencil.Lexeme

open Text

/-- A text that is taken as a lexeme, to its end. -/
def IsTextOf (slice : List Char) (l : Lexeme) : Prop :=
  ∃ c body, slice = c :: body ∧ next c body = .ok (l, [])

/-- Some slices in a row, with a gap in front of the first one and a gap behind each. -/
def spaced : List (List Char) → List (List Char) → List Char
  | gap :: gaps, slice :: slices => gap ++ slice ++ spaced gaps slices
  | gaps, _ => gaps.flatten

/-- Without slices, there are only gaps. -/
theorem spaced_nil (gaps : List (List Char)) : spaced gaps [] = gaps.flatten := by
  cases gaps <;> rfl

/-- As many gaps as there are around some slices, of white space alone. -/
structure Surrounds (gaps slices : List (List Char)) : Prop where
  length_eq : gaps.length = slices.length + 1
  isBlank : ∀ gap ∈ gaps, ∀ b ∈ gap, isBlank b = true

/-- The gaps between two slices are not empty; the first gap and the last one may be. -/
structure Separates (gaps slices : List (List Char)) : Prop extends Surrounds gaps slices where
  ne_nil : ∀ gap ∈ gaps.tail.dropLast, gap ≠ []

section Slices

variable {gap slice cs more : List Char} {gaps slices : List (List Char)} {l : Lexeme}
  {ls : List Lexeme}

/-- The text of a lexeme is not empty. -/
theorem IsTextOf.ne_nil (h : IsTextOf slice l) : slice ≠ [] := by
  obtain ⟨c, body, rfl, -⟩ := h
  exact List.cons_ne_nil c body

/-- A lexeme does not go on where the text ends. -/
theorem not_goesOn_nil (l : Lexeme) : ¬ l.GoesOn [] := by
  rintro ⟨⟩

/-- The text of a lexeme is cut off where the lexeme does not go on. -/
theorem IsTextOf.cut (h : IsTextOf slice l) (hmore : ¬ l.GoesOn more) : Cut slice [l] more := by
  obtain ⟨c, body, rfl, hnext⟩ := h
  obtain ⟨body', rfl, hspells, -⟩ := exists_spelling hnext
  rw [List.append_nil]
  exact cut_of_spells hspells hmore

/-- What spells a lexeme is a text of it. -/
theorem IsTextOf.of_spells {c : Char} {body : List Char} (h : Spells c body l) :
    IsTextOf (c :: body) l := by
  have hnext := h [] (not_goesOn_nil l)
  rw [List.append_nil] at hnext
  exact ⟨c, body, rfl, hnext⟩

/-- In front of the first slice is a gap of white space. -/
theorem Surrounds.exists_cons (h : Surrounds gaps (slice :: slices)) :
    ∃ gap rest, gaps = gap :: rest ∧ (∀ b ∈ gap, Text.isBlank b = true) ∧
      Surrounds rest slices := by
  obtain ⟨hlength, hblank⟩ := h
  cases gaps with
  | nil => cases hlength
  | cons gap rest =>
    exact ⟨gap, rest, rfl, hblank gap (List.mem_cons_self ..), Nat.succ.inj hlength,
      fun g hg => hblank g (List.mem_cons_of_mem _ hg)⟩

/-- Behind the last slice is one gap of white space. -/
theorem Surrounds.exists_last (h : Surrounds gaps []) :
    ∃ gap, gaps = [gap] ∧ ∀ b ∈ gap, Text.isBlank b = true := by
  obtain ⟨gap, rfl⟩ := List.length_eq_one_iff.1 h.length_eq
  exact ⟨gap, rfl, h.isBlank gap (List.mem_singleton_self gap)⟩

/-- The gaps behind the first slice are in front of the others. -/
theorem Separates.exists_cons (h : Separates gaps (slice :: slices)) :
    ∃ gap rest, gaps = gap :: rest ∧ (∀ b ∈ gap, Text.isBlank b = true) ∧ Separates rest slices ∧
      ∀ g ∈ rest.dropLast, g ≠ [] := by
  obtain ⟨gap, rest, rfl, hgap, hrest⟩ := h.toSurrounds.exists_cons
  refine ⟨gap, rest, rfl, hgap, ⟨hrest, fun g hg => h.ne_nil g ?_⟩, h.ne_nil⟩
  rw [← List.tail_dropLast] at hg
  exact List.mem_of_mem_tail hg

/-- A text with lexemes is made of the slices that were taken as them and of white space. -/
theorem exists_slices (h : lex cs = .ok ls) :
    ∃ slices, List.Forall₂ IsTextOf slices ls ∧
      ∃ gaps, Surrounds gaps slices ∧ spaced gaps slices = cs := by
  fun_induction lex cs generalizing ls with
  | case1 cs hcs =>
    cases h
    refine ⟨[], .nil, [cs], ⟨rfl, ?_⟩, by simp [spaced]⟩
    simpa using List.dropWhile_eq_nil_iff.1 hcs
  | case2 | case3 => cases h
  | case4 cs c rest hcs l after hnext ls' hafter ih =>
    cases h
    obtain ⟨slices, htexts, gaps, hgaps, hspaced⟩ := ih hafter
    obtain ⟨body, rfl, hspells, -⟩ := exists_spelling hnext
    refine ⟨(c :: body) :: slices, .cons (.of_spells hspells) htexts, cs.takeWhile isBlank :: gaps,
      ⟨congrArg Nat.succ hgaps.length_eq, ?_⟩, ?_⟩
    · exact List.forall_mem_cons.2 ⟨fun b hb => List.mem_takeWhile_imp hb, hgaps.isBlank⟩
    · have hsplit := List.takeWhile_append_dropWhile (p := isBlank) (l := cs)
      rw [← trimStart, hcs] at hsplit
      rw [spaced, hspaced, List.append_assoc]
      exact hsplit

/-- Behind a slice the text ends or a gap begins, and its lexeme does not go on with either. -/
theorem not_goesOn_spaced (l : Lexeme) (h : Surrounds gaps slices)
    (hne : ∀ gap ∈ gaps.dropLast, gap ≠ []) : ¬ l.GoesOn (spaced gaps slices) := by
  have hblank {gap : List Char} (hgap : ∀ b ∈ gap, Text.isBlank b = true) (hcons : gap ≠ [])
      (more : List Char) : ¬ l.GoesOn (gap ++ more) := by
    obtain ⟨b, gap, rfl⟩ := List.exists_cons_of_ne_nil hcons
    exact not_goesOn_blank (hgap b (List.mem_cons_self ..)) (gap ++ more)
  cases slices with
  | nil =>
    obtain ⟨gap, rfl, hgap⟩ := h.exists_last
    rw [spaced_nil, List.flatten_cons, List.flatten_nil]
    by_cases hnil : gap = []
    · subst hnil
      exact not_goesOn_nil l
    · exact hblank hgap hnil []
  | cons slice slices =>
    obtain ⟨gap, rest, rfl, hgap, hrest⟩ := h.exists_cons
    have hcons : gap ≠ [] := by
      refine hne gap ?_
      rw [List.dropLast_cons_of_ne_nil]
      · exact List.mem_cons_self ..
      · rintro rfl
        cases hrest.length_eq
    rw [spaced, List.append_assoc]
    exact hblank hgap hcons _

/-- Slices that are taken as lexemes are so in front of any gaps that keep them apart. -/
theorem lex_spaced (h : List.Forall₂ IsTextOf slices ls) (hgaps : Separates gaps slices) :
    lex (spaced gaps slices) = .ok ls := by
  induction h generalizing gaps with
  | nil =>
    obtain ⟨gap, rfl, hgap⟩ := hgaps.exists_last
    refine lex_of_trimStart_nil ?_
    rw [trimStart, List.dropWhile_eq_nil_iff, spaced_nil]
    simpa using hgap
  | @cons slice l slices ls hslice _ ih =>
    obtain ⟨gap, rest, rfl, hgap, hrest, hne⟩ := hgaps.exists_cons
    have hcut := hslice.cut (not_goesOn_spaced l hrest.toSurrounds hne)
    rw [Cut, ih hrest] at hcut
    rw [spaced, List.append_assoc]
    have htrim := trimStart_append_of_nil (List.dropWhile_eq_nil_iff.2 hgap)
    exact (lex_congr (htrim _)).trans hcut

end Slices

/-- The lexemes of a text are taken from consecutive slices of it, with white space around them, and
with any other white space that keeps them apart the slices have the same lexemes. -/
theorem lex_respaced {cs : List Char} {ls : List Lexeme} (h : lex cs = .ok ls) :
    ∃ slices, List.Forall₂ IsTextOf slices ls ∧ (∀ slice ∈ slices, slice ≠ []) ∧
      (∃ gaps, Surrounds gaps slices ∧ spaced gaps slices = cs) ∧
      ∀ gaps, Separates gaps slices → lex (spaced gaps slices) = .ok ls := by
  obtain ⟨slices, htexts, hgaps⟩ := exists_slices h
  have hne : ∀ slice ∈ slices, slice ≠ [] :=
    ((List.forall₂_and_left slices ls).1 (htexts.imp fun _ _ h => ⟨h.ne_nil, h⟩)).1
  exact ⟨slices, htexts, hne, hgaps, fun gaps hsep => lex_spaced htexts hsep⟩

/-- A text with one blank, which is inside a string: dashes and a question mark in a word, points
behind digits, and a mark that begins like a shorter one. -/
def crowded : List Char :=
  "a-1?.0..-2|b<=' x'".toList

/-- A text in which lexemes touch each other is cut into the same lexemes with any separating gaps.
-/
theorem lex_respaced_crowded : ∃ ls, lex crowded = .ok ls ∧
    ls.map text = ["a-1?", ".", "0", "..", "-2", "|", "b", "<=", "\" x\""] ∧
    ∃ slices, List.Forall₂ IsTextOf slices ls ∧ (∀ slice ∈ slices, slice ≠ []) ∧
      (∃ gaps, Surrounds gaps slices ∧ spaced gaps slices = crowded) ∧
      ∀ gaps, Separates gaps slices → lex (spaced gaps slices) = .ok ls := by
  have hlex : (lex crowded).toOption.map (List.map text) =
      some ["a-1?", ".", "0", "..", "-2", "|", "b", "<=", "\" x\""] := by
    decide +kernel
  obtain ⟨ls, hls, htexts⟩ := exists_ok_of_map_toOption hlex
  exact ⟨ls, hls, htexts, lex_respaced hls⟩

end Stencil.Lexeme
