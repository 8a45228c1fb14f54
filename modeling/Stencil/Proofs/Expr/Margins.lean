import Mathlib.Data.List.DropRight
import Stencil.Proofs.Expr.Descent
import Stencil.Proofs.Expr.Spelling

/-!
# White space around expressions

White space around the text of an expression changes nothing but the end of a text that a message
shows (`Output.mapError_read_trimmed`).  At the beginning it is skipped, and at the end no lexeme
goes on with it.  Where the text has no lexemes, the fault shows the text from there to its end, and
with it the white space there; without the shown text it is the same fault
(`Lexeme.mapError_lex_append`).
-/

set_option autoImplicit false

namespace Stencil

/-- A fault without the text that it shows to tell where it is. -/
def ExprFault.bare : ExprFault → ExprFault
  | .unterminatedString _ => .unterminatedString ""
  | .unexpectedChar c _ => .unexpectedChar c ""
  | fault => fault

/-- Two computations give the same result or fail with errors that look the same. -/
theorem eq_or_of_mapError_eq {ε ε' α : Type} {f : ε → ε'} {r r' : Except ε α}
    (h : r.mapError f = r'.mapError f) : (∃ a, r = .ok a ∧ r' = .ok a) ∨
      ∃ e e', r = .error e ∧ r' = .error e' ∧ f e = f e' := by
  cases r with
  | ok a =>
    cases r' with
    | ok a' => exact .inl ⟨a, rfl, by rw [Except.ok.inj h]⟩
    | error e' => cases h
  | error e =>
    cases r' with
    | ok a' => cases h
    | error e' => exact .inr ⟨e, e', rfl, rfl, Except.error.inj h⟩

/-- Steps that agree but for a part of their errors may stand for each other in front of any step.
-/
theorem mapError_bind_congr {ε ε' α β : Type} {f : ε → ε'} {r r' : Except ε α}
    (h : r.mapError f = r'.mapError f) (g : α → Except ε β) :
    (r >>= g).mapError f = (r' >>= g).mapError f := by
  obtain ⟨a, rfl, rfl⟩ | ⟨e, e', rfl, rfl, he⟩ := eq_or_of_mapError_eq h
  · rfl
  · exact congrArg Except.error he

namespace Text

variable {cs : List Char}

/-- White space is taken off the end as by the library function. -/
theorem trimEnd_eq_rdropWhile (cs : List Char) : trimEnd cs = cs.rdropWhile isBlank :=
  rfl

/-- A text is what is left of it when it is trimmed at its end, and white space behind that. -/
theorem exists_trimEnd_append (cs : List Char) :
    ∃ blanks, (∀ b ∈ blanks, isBlank b = true) ∧ trimEnd cs ++ blanks = cs :=
  ⟨cs.rtakeWhile isBlank, fun _ hb => List.mem_rtakeWhile_imp hb, List.rdropWhile_append_rtakeWhile⟩

/-- A text that was trimmed at its beginning has no white space there. -/
theorem trimStart_of_prefix {front : List Char} (h : front <+: trimStart cs) :
    trimStart front = front := by
  cases front with
  | nil => rfl
  | cons c front =>
    obtain ⟨rest, hrest⟩ := h
    have hc : isBlank c = false := head?_dropWhile isBlank cs c (by rw [← trimStart, ← hrest]; rfl)
    rw [trimStart, List.dropWhile_cons, hc]
    rfl

/-- Trimming a text twice is trimming it once. -/
theorem trim_trim (cs : List Char) : trim (trim cs) = trim cs := by
  have hstart : trimStart (trim cs) = trim cs := trimStart_of_prefix (List.rdropWhile_prefix _ _)
  rw [trim, hstart]
  exact List.rdropWhile_idempotent _ _

/-- Nothing is left of a text of white space, and of no other one. -/
theorem trim_eq_nil_iff : trim cs = [] ↔ ∀ c ∈ cs, isBlank c = true := by
  rw [trim, trimEnd_eq_rdropWhile, List.rdropWhile_eq_nil_iff]
  constructor
  · intro h c hc
    rw [← List.takeWhile_append_dropWhile (p := isBlank) (l := cs)] at hc
    rcases List.mem_append.1 hc with hc | hc
    · exact List.mem_takeWhile_imp hc
    · exact h c hc
  · exact fun h c hc => h c (List.dropWhile_subset _ hc)

/-- A blank on each side of a text is trimmed off with the white space around the text. -/
theorem trim_spaced (cs : List Char) : trim (' ' :: (cs ++ [' '])) = trim cs := by
  have hfirst : trimStart (' ' :: (cs ++ [' '])) = trimStart (cs ++ [' ']) := rfl
  rw [trim, hfirst]
  cases hcs : trimStart cs with
  | nil => rw [Lexeme.trimStart_append_of_nil hcs, trim, hcs]; rfl
  | cons c rest =>
    rw [Lexeme.trimStart_append_of_cons hcs, trim, hcs, ← List.cons_append]
    exact List.rdropWhile_concat_pos _ _ _ (by decide)

end Text

namespace Lexeme

open Text

section Blanks

variable {blanks : List Char} (hblanks : ∀ b ∈ blanks, isBlank b = true)

include hblanks

/-- A visible character does not stand in white space. -/
theorem not_mem_blanks {c : Char} (hc : isBlank c = false) : c ∉ blanks := by
  intro hmem
  rw [hblanks c hmem] at hc
  cases hc

/-- Digits end in front of white space. -/
theorem takeWhile_dropWhile_blanks (cs : List Char) :
    (cs ++ blanks).takeWhile isDigit = cs.takeWhile isDigit ∧
      (cs ++ blanks).dropWhile isDigit = cs.dropWhile isDigit ++ blanks := by
  have hstop : ∀ d ∈ (cs.dropWhile isDigit ++ blanks).head?, isDigit d = false := by
    cases hrest : cs.dropWhile isDigit with
    | nil => exact fun d hd => not_isDigit_of_isBlank (hblanks d (List.mem_of_mem_head? hd))
    | cons c rest =>
      have hc := head?_dropWhile isDigit cs
      rw [hrest] at hc
      exact hc
  have hdigits : ∀ d ∈ cs.takeWhile isDigit, isDigit d = true :=
    fun d hd => List.mem_takeWhile_imp hd
  have h := takeWhile_dropWhile_append hdigits hstop
  rwa [← List.append_assoc, List.takeWhile_append_dropWhile] at h

/-- White space behind the text of a number without a sign belongs to what follows it. -/
theorem splitUnsigned?_blanks (sign body : List Char) :
    splitUnsigned? sign (body ++ blanks) =
      (splitUnsigned? sign body).map fun split => (split.1, split.2 ++ blanks) := by
  obtain ⟨htake, hdrop⟩ := takeWhile_dropWhile_blanks hblanks body
  unfold splitUnsigned?
  rw [htake, hdrop]
  split
  · rfl
  · cases hrest : body.dropWhile isDigit with
    | nil =>
      rw [List.nil_append]
      split
      · exact absurd (List.mem_cons_self ..) (not_mem_blanks hblanks (by decide))
      · rfl
    | cons c tail =>
      obtain ⟨htake', hdrop'⟩ := takeWhile_dropWhile_blanks hblanks tail
      rw [List.cons_append]
      by_cases hc : c = '.'
      · subst hc
        simp only [htake', hdrop']
        split <;> rfl
      · split
        · next heq => exact absurd (List.cons.inj heq).1 hc
        · split
          · next heq => exact absurd (List.cons.inj heq).1 hc
          · rfl

/-- White space behind the text of a number belongs to what follows it. -/
theorem splitNumber?_blanks (c : Char) (rest : List Char) :
    splitNumber? (c :: (rest ++ blanks)) =
      (splitNumber? (c :: rest)).map fun split => (split.1, split.2 ++ blanks) := by
  by_cases hc : c = '-'
  · subst hc
    exact splitUnsigned?_blanks hblanks ['-'] rest
  · rw [splitNumber?_unsigned hc, splitNumber?_unsigned hc, ← List.cons_append,
      splitUnsigned?_blanks hblanks]

/-- A text that begins with no mark begins with none in front of white space. -/
theorem findPunct?_blanks {cs : List Char} (h : findPunct? cs = none) :
    findPunct? (cs ++ blanks) = none := by
  rw [findPunct?, List.find?_eq_none] at h ⊢
  intro p hp hprefix
  refine h p hp (List.isPrefixOf_iff_prefix.2 ?_)
  have hprefix' := List.isPrefixOf_iff_prefix.1 hprefix
  rcases List.prefix_or_prefix_of_prefix hprefix' (List.prefix_append cs blanks) with hshort | hlong
  · exact hshort
  · obtain ⟨tail, htail⟩ := hlong
    rw [← htail, List.prefix_append_right_inj] at hprefix'
    cases tail with
    | nil => exact ⟨[], by rw [← htail, List.append_nil, List.append_nil]⟩
    | cons d tail =>
      have hd : d ∈ blanks := hprefix'.subset (List.mem_cons_self ..)
      exact absurd hd (not_mem_blanks hblanks (p.not_isBlank_of_mem (by simp [← htail])))

/-- What is no lexeme is none in front of white space either. -/
theorem exists_next_error {c : Char} {rest : List Char} {e : ExprFault}
    (h : next c rest = .error e) :
    ∃ e', next c (rest ++ blanks) = .error e' ∧ e'.bare = e.bare := by
  unfold next at h ⊢
  split at h
  · next hquote =>
    rw [if_pos hquote]
    split at h
    · next hnil =>
      cases h
      have hall : ∀ a ∈ rest ++ blanks, (a != c) = true := by
        have hrest := List.dropWhile_eq_nil_iff.1 hnil
        have hc : c ∉ blanks := not_mem_blanks hblanks (by
          rcases hquote with rfl | rfl <;> decide)
        intro a ha
        rcases List.mem_append.1 ha with ha | ha
        · exact hrest a ha
        · simp only [bne_iff_ne]
          rintro rfl
          exact hc ha
      have hnil' : (rest ++ blanks).dropWhile (· != c) = [] := List.dropWhile_eq_nil_iff.2 hall
      rw [hnil']
      exact ⟨_, rfl, rfl⟩
    · cases h
  · next hquote =>
    rw [if_neg hquote, splitNumber?_blanks hblanks]
    split at h
    · next text after hsplit =>
      rw [hsplit, Option.map_some]
      dsimp only
      split at h
      · cases h
      · cases h
        exact ⟨_, rfl, rfl⟩
    · next hsplit =>
      rw [hsplit, Option.map_none]
      dsimp only
      split at h
      · cases h
      · next hname =>
        rw [if_neg hname]
        split at h
        · cases h
        · next hfind =>
          cases h
          rw [← List.cons_append, findPunct?_blanks hblanks hfind]
          exact ⟨_, rfl, rfl⟩

/-- A lexeme that ends does not go on into white space behind the text. -/
theorem not_goesOn_blanks {l : Lexeme} {after : List Char} (h : ¬ l.GoesOn after) :
    ¬ l.GoesOn (after ++ blanks) := by
  cases blanks with
  | nil => rwa [List.append_nil]
  | cons b more => exact not_goesOn_append_blank h (hblanks b (List.mem_cons_self ..)) more

/-- White space at the end of a text matters only to the text that a fault shows: every lexeme ends
in front of it, and what is no lexeme stays none. -/
theorem mapError_lex_append (cs : List Char) :
    (lex (cs ++ blanks)).mapError ExprFault.bare = (lex cs).mapError ExprFault.bare := by
  -- the induction follows the lexer, which goes on behind each lexeme with a shorter text
  induction h : cs.length using Nat.strong_induction_on generalizing cs with
  | _ n ih =>
    subst h
    cases hcs : trimStart cs with
    | nil =>
      have hblank : trimStart (cs ++ blanks) = [] := by
        rw [trimStart_append_of_nil hcs]
        exact List.dropWhile_eq_nil_iff.2 hblanks
      rw [lex_of_trimStart_nil hcs, lex_of_trimStart_nil hblank]
    | cons c rest =>
      have hcs' := trimStart_append_of_cons hcs blanks
      cases hnext : next c rest with
      | error e =>
        obtain ⟨e', hnext', he⟩ := exists_next_error hblanks hnext
        rw [lex_of_next_error hcs hnext, lex_of_next_error hcs' hnext']
        exact congrArg Except.error he
      | ok result =>
        obtain ⟨l, after⟩ := result
        obtain ⟨body, rfl, hspells, hends⟩ := exists_spelling hnext
        have hnext' := hspells (after ++ blanks) (not_goesOn_blanks hblanks hends)
        rw [← List.append_assoc] at hnext'
        rw [lex_of_next hcs hnext, lex_of_next hcs' hnext']
        have hshorter : after.length < cs.length := by
          have hlength := length_dropWhile_le isBlank cs
          rw [← trimStart, hcs, List.length_cons, List.length_append] at hlength
          omega
        exact mapError_bind_congr (ih _ hshorter after rfl) fun ls => .ok (l :: ls)

end Blanks

end Lexeme

/-- White space around a text matters only to the text that a fault shows. -/
theorem Lexeme.mapError_lex_trim (cs : List Char) :
    (lex (Text.trim cs)).mapError ExprFault.bare = (lex cs).mapError ExprFault.bare := by
  obtain ⟨blanks, hblanks, happend⟩ := Text.exists_trimEnd_append (Text.trimStart cs)
  have h := mapError_lex_append hblanks (Text.trim cs)
  have hstart : lex (Text.trimStart cs) = lex cs := lex_congr (List.dropWhile_idempotent _ _)
  rw [Text.trim, happend, hstart] at h
  exact h.symm

/-- The trimmed text of an output is the same output, or it is none for the same reason. -/
theorem Output.mapError_read_trimmed (source : String) :
    (Output.read (Text.trimmed source)).mapError ExprFault.bare =
      (Output.read source).mapError ExprFault.bare := by
  have hlex := Lexeme.mapError_lex_trim source.toList
  have htrimmed : Text.trimmed (Text.trimmed source) = Text.trimmed source := by
    rw [Text.trimmed, Text.trimmed, String.toList_ofList, Text.trim_trim]
  have hwhole := mapError_bind_congr hlex (Reading.exactly Reading.piped)
  rw [Output.read, Output.read, htrimmed, Reading.whole, Text.trimmed, String.toList_ofList]
  exact mapError_bind_congr hwhole _

end Stencil
