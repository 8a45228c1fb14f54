import Stencil.Proofs.Token.Joining
import Stencil.Proofs.Token.Trimming

/-!
# Where a source has no tokens

A source is read from left to right: up to its first opening delimiter, from there to the first
closing one, and then in the same way behind it (`Token.Reaches`).  An opening delimiter that is
reached is malformed if nothing closes it, or if what it encloses is no output or no tag
(`Token.Malformed`).  A source has no tokens exactly when there is a malformed one, and the error is
about the first of them, whatever is behind the text that it encloses (`tokenize_fails`).
-/

set_option autoImplicit false

namespace Stencil

namespace Token

/-- The first opening delimiter of a text, between what is before it and what is behind it. -/
structure OpensFirst (cs text : List Char) (d : Delimiter) (rest : List Char) : Prop where
  eq : cs = text ++ (d.opener ++ rest)
  first : ∀ before (d' : Delimiter) behind,
    cs = before ++ (d'.opener ++ behind) → text.length ≤ before.length

/-- The first closing delimiter behind an opening one, between what is before it and what is behind
it. -/
structure ClosesAt (d : Delimiter) (rest inner after : List Char) : Prop where
  eq : rest = inner ++ (d.closer ++ after)
  first : d.ClosesFirst inner

/-- The opening delimiters that are reached in a text, each with what is before it and what is behind
it: the first one, and those that are reached behind the text which the first one encloses. -/
inductive Reaches : List Char → List Char → Delimiter → List Char → Prop
  | here {cs text rest : List Char} {d : Delimiter} (h : OpensFirst cs text d rest) :
      Reaches cs text d rest
  | behind {cs text rest inner after front rest' : List Char} {d d' : Delimiter}
      (h : OpensFirst cs text d rest) (hclose : ClosesAt d rest inner after)
      (hmore : Reaches after front d' rest') :
      Reaches cs (text ++ (d.opener ++ (inner ++ (d.closer ++ front)))) d' rest'

/-- What is left of the text between two delimiters without one dash in front, then without one dash
behind, and then without white space around. -/
def Stripped (inner content : List Char) : Prop :=
  ∃ rest body started, (inner = '-' :: rest ∨ inner.head? ≠ some '-' ∧ rest = inner) ∧
    (rest = body ++ ['-'] ∨ rest.getLast? ≠ some '-' ∧ body = rest) ∧
    TrimsHead true body started ∧ TrimsTail true started content

/-- What is wrong with an opening delimiter, between what is before it and what is behind it. -/
inductive Malformed (front : List Char) (d : Delimiter) (rest : List Char) : DelimiterFault → Prop
  | unclosed (h : ¬ d.closer <:+: rest) :
      Malformed front d rest (.unclosed d (String.ofList (front ++ d.opener)))
  | emptyOutput {inner after : List Char} (hd : d = .output) (h : ClosesAt d rest inner after)
      (hinner : Stripped inner []) :
      Malformed front d rest (.emptyOutput (String.ofList (d.opener ++ inner ++ d.closer)))
  | badTag {inner after content : List Char} (hd : d = .tag) (h : ClosesAt d rest inner after)
      (hinner : Stripped inner content) (hword : ∀ c ∈ content.head?, ¬ Text.isWord c) :
      Malformed front d rest (.badTag (String.ofList (d.opener ++ inner ++ d.closer)))

/-- The first malformed delimiter that is reached in the text behind some other text. -/
structure FirstMalformed (before cs front : List Char) (d : Delimiter) (rest : List Char)
    (fault : DelimiterFault) : Prop where
  reaches : Reaches cs front d rest
  malformed : Malformed (before ++ front) d rest fault
  first : ∀ front' d' rest' fault', Reaches cs front' d' rest' →
    Malformed (before ++ front') d' rest' fault' → front.length ≤ front'.length

section Stripping

variable {cs content inner : List Char}

/-- Greedy trimming takes all white space off the head. -/
theorem TrimsHead.eq_trimStart (h : TrimsHead true cs content) : content = Text.trimStart cs := by
  cases h with
  | greedy hrun hrest =>
    have hstop := fun c hc => Bool.eq_false_iff.2 (hrest c hc)
    exact (takeWhile_dropWhile_append hrun hstop).2.symm

/-- Greedy trimming takes all white space off the tail. -/
theorem TrimsTail.eq_trimEnd (h : TrimsTail true cs content) : content = Text.trimEnd cs := by
  cases h with
  | @greedy run _ hrun hrest =>
    have hback : (run.reverse ++ content.reverse).dropWhile Text.isBlank = content.reverse := by
      refine (takeWhile_dropWhile_append (fun c hc => hrun c (List.mem_reverse.1 hc)) ?_).2
      intro c hc
      rw [List.head?_reverse] at hc
      exact Bool.eq_false_iff.2 (hrest c hc)
    rw [Text.trimEnd, Text.dropEndWhile, List.reverse_append, hback, List.reverse_reverse]

/-- The content of a delimited text is what stands between the dashes, without white space around
it. -/
theorem Content.text_ofInner {rest body : List Char}
    (hrest : inner = '-' :: rest ∨ inner.head? ≠ some '-' ∧ rest = inner)
    (hbody : rest = body ++ ['-'] ∨ rest.getLast? ≠ some '-' ∧ body = rest) :
    (Content.ofInner inner).text = Text.trim body := by
  have hright : (if rest.getLast? == some '-' then rest.dropLast else rest) = body := by
    rcases hbody with rfl | ⟨hlast, rfl⟩
    · simp
    · simp [hlast]
  rw [← hright]
  rcases hrest with rfl | ⟨hne, rfl⟩
  · rfl
  · rw [Content.ofInner_of_head?_ne hne]

/-- What is left of a delimited text is what its token is made from. -/
theorem stripped_iff : Stripped inner content ↔ content = (Content.ofInner inner).text := by
  constructor
  · rintro ⟨rest, body, started, hrest, hbody, hhead, htail⟩
    rw [Content.text_ofInner hrest hbody, htail.eq_trimEnd, hhead.eq_trimStart]
    rfl
  · rintro rfl
    obtain ⟨rest, hrest⟩ :
        ∃ rest, inner = '-' :: rest ∨ inner.head? ≠ some '-' ∧ rest = inner := by
      by_cases h : inner.head? = some '-'
      · obtain ⟨rest, rfl⟩ := List.head?_eq_some_iff.1 h
        exact ⟨rest, .inl rfl⟩
      · exact ⟨inner, .inr ⟨h, rfl⟩⟩
    obtain ⟨body, hbody⟩ :
        ∃ body, rest = body ++ ['-'] ∨ rest.getLast? ≠ some '-' ∧ body = rest := by
      by_cases h : rest.getLast? = some '-'
      · obtain ⟨body, rfl⟩ := List.getLast?_eq_some_iff.1 h
        exact ⟨body, .inl rfl⟩
      · exact ⟨rest, .inr ⟨h, rfl⟩⟩
    refine ⟨rest, body, Text.trimStart body, hrest, hbody, trimsHead_trimHead true body, ?_⟩
    rw [Content.text_ofInner hrest hbody]
    exact trimsTail_trimTail true (Text.trimStart body)

/-- Nothing is taken off a text whose first character is not of the kind. -/
theorem takeWhile_eq_nil_iff {p : Char → Bool} {cs : List Char} :
    cs.takeWhile p = [] ↔ ∀ c ∈ cs.head?, ¬ p c := by
  cases cs with
  | nil => simp
  | cons c cs => simp [List.takeWhile_cons]

end Stripping

section Pieces

variable {options : Options} {cs text rest inner after front rest' : List Char} {d d' : Delimiter}
  {p : Position} {fault : DelimiterFault}

/-- The first opening delimiter is the one that the scanner finds. -/
theorem opensFirst_iff : OpensFirst cs text d rest ↔ splitOpener cs = (text, some (d, rest)) := by
  rw [splitOpener_eq_some_iff]
  exact ⟨fun h => ⟨h.eq, h.first⟩, fun h => ⟨h.1, h.2⟩⟩

/-- The first closing delimiter is the one that the scanner finds. -/
theorem closesAt_iff : ClosesAt d rest inner after ↔ splitMark d.closer rest = some (inner, after) := by
  rw [splitMark_eq_some_iff]
  exact ⟨fun h => ⟨h.eq, h.first⟩, fun h => ⟨h.1, h.2⟩⟩

/-- There is one first closing delimiter. -/
theorem ClosesAt.unique {inner' after' : List Char} (h : ClosesAt d rest inner after)
    (h' : ClosesAt d rest inner' after') : inner' = inner ∧ after' = after := by
  rw [closesAt_iff] at h h'
  cases h.symm.trans h'
  exact ⟨rfl, rfl⟩

/-- A source without an opening delimiter reaches none. -/
theorem not_reaches (h : splitOpener cs = (text, none)) : ¬ Reaches cs front d rest := by
  intro hreach
  cases hreach with
  | here hopen | behind hopen => cases h.symm.trans (opensFirst_iff.1 hopen)

/-- An opening delimiter that is reached is the first one, or it is reached behind what that one
encloses. -/
theorem Reaches.cases_first (h : Reaches cs front d' rest') (hopen : OpensFirst cs text d rest) :
    front = text ∧ d' = d ∧ rest' = rest ∨ ∃ inner after front', ClosesAt d rest inner after ∧
      front = text ++ (d.opener ++ (inner ++ (d.closer ++ front'))) ∧
        Reaches after front' d' rest' := by
  rw [opensFirst_iff] at hopen
  cases h with
  | here hopen' =>
    cases hopen.symm.trans (opensFirst_iff.1 hopen')
    exact .inl ⟨rfl, rfl, rfl⟩
  | behind hopen' hclose hmore =>
    cases hopen.symm.trans (opensFirst_iff.1 hopen')
    exact .inr ⟨_, _, _, hclose, rfl, hmore⟩

/-- A text that is closed is malformed exactly when no token can be made of it. -/
theorem malformed_iff_of_closesAt (h : ClosesAt d rest inner after) :
    Malformed front d rest fault ↔ ofInner options d p inner = .error (.tokenization fault p) := by
  constructor
  · intro hbad
    cases hbad with
    | unclosed hnone =>
      refine absurd ⟨inner, after, ?_⟩ hnone
      rw [h.eq, List.append_assoc]
    | emptyOutput hd h' hinner =>
      obtain ⟨rfl, rfl⟩ := h.unique h'
      subst hd
      simp [ofInner, ← stripped_iff.1 hinner]
    | badTag hd h' hinner hword =>
      obtain ⟨rfl, rfl⟩ := h.unique h'
      subst hd
      rw [← takeWhile_eq_nil_iff, stripped_iff.1 hinner] at hword
      simp [ofInner, hword]
  · intro hfail
    unfold ofInner at hfail
    cases d with
    | output =>
      dsimp only at hfail
      split at hfail
      · next hempty =>
        cases hfail
        exact .emptyOutput rfl h (stripped_iff.2 (List.isEmpty_iff.1 hempty).symm)
      · cases hfail
    | tag =>
      dsimp only at hfail
      split at hfail
      · next hname =>
        cases hfail
        exact .badTag rfl h (stripped_iff.2 rfl) (takeWhile_eq_nil_iff.1 (List.isEmpty_iff.1 hname))
      · cases hfail

/-- A delimited text that is no token is an error at its place. -/
theorem exists_fault_of_ofInner {e : Error} (h : ofInner options d p inner = .error e) :
    ∃ fault, e = .tokenization fault p := by
  unfold ofInner at h
  cases d <;> dsimp only at h <;> split at h <;> cases h <;> exact ⟨_, rfl⟩

/-- Whether a token can be made of a text depends neither on the options nor on its place. -/
theorem exists_ofInner_ok {t : Token} (hclose : ClosesAt d rest inner after)
    (h : ofInner options d p inner = .ok t) (options' : Options) (p' : Position) :
    ∃ t', ofInner options' d p' inner = .ok t' := by
  cases h' : ofInner options' d p' inner with
  | ok t' => exact ⟨t', rfl⟩
  | error e =>
    obtain ⟨fault, rfl⟩ := exists_fault_of_ofInner h'
    have hbad : Malformed [] d rest fault := (malformed_iff_of_closesAt hclose).2 h'
    cases h.symm.trans ((malformed_iff_of_closesAt hclose).1 hbad)

/-- A delimiter that is never closed is malformed. -/
theorem malformed_of_unclosed (h : splitMark d.closer rest = none) :
    Malformed front d rest (.unclosed d (String.ofList (front ++ d.opener))) :=
  .unclosed (splitMark_eq_none_iff.1 h)

end Pieces

section Scanning

variable {options : Options} {before cs front rest : List Char} {p : Position} {d : Delimiter}
  {fault : DelimiterFault} {tokens : List Token} {e : Error}

/-- A text that has tokens has no malformed delimiter. -/
theorem not_malformed_of_scanFrom (h : scanFrom options before p cs = .ok tokens)
    (hreach : Reaches cs front d rest) : ¬ Malformed (before.reverse ++ front) d rest fault := by
  fun_induction scanFrom options before p cs generalizing tokens front with
  | case1 before p cs text hsplit => exact absurd hreach (not_reaches hsplit)
  | case2 | case3 | case4 => cases h
  | case5 =>
    next before p cs text d' rest' hsplit _ opened inner after hmark t ht closed _ more hmore ih =>
    have hclose := closesAt_iff.2 hmark
    intro hbad
    rcases hreach.cases_first (opensFirst_iff.2 hsplit) with
      ⟨rfl, rfl, rfl⟩ | ⟨inner', after', front', hclose', rfl, hreach'⟩
    · cases ht.symm.trans ((malformed_iff_of_closesAt hclose).1 hbad)
    · obtain ⟨rfl, rfl⟩ := hclose.unique hclose'
      refine ih hmore hreach' ?_
      simpa [closed, opened] using hbad

/-- An error is about the first malformed delimiter, and the text behind what that one encloses does
not matter. -/
theorem firstMalformed_of_scanFrom (h : scanFrom options before p cs = .error e) :
    ∃ front d rest fault, FirstMalformed before.reverse cs front d rest fault ∧
      e = .tokenization fault (p.advance front) ∧
      ∀ inner after, ClosesAt d rest inner after → ∀ (options' : Options) (after' : List Char),
        scanFrom options' before p (front ++ (d.opener ++ (inner ++ (d.closer ++ after')))) =
          .error e := by
  fun_induction scanFrom options before p cs generalizing e with
  | case1 | case5 => cases h
  | case2 =>
    next before p cs text d rest hsplit place before' hmark =>
    -- nothing closes the delimiter, so no other one is reached
    cases h
    have hopen := opensFirst_iff.2 hsplit
    have hnone {inner after : List Char} : ¬ ClosesAt d rest inner after := by
      rw [closesAt_iff, hmark]
      exact Option.some_ne_none _ ∘ Eq.symm
    refine ⟨text, d, rest, .unclosed d (String.ofList before'.reverse), ⟨.here hopen, ?_, ?_⟩, rfl, ?_⟩
    · have hbefore : before'.reverse = before.reverse ++ text ++ d.opener := by simp [before']
      rw [hbefore]
      exact malformed_of_unclosed hmark
    · intro front' d' rest' fault' hreach' _
      rcases hreach'.cases_first hopen with ⟨rfl, -, -⟩ | ⟨inner, after, _, hclose, -⟩
      · exact Nat.le_refl _
      · exact absurd hclose hnone
    · intro inner after hclose
      exact absurd hclose hnone
  | case3 =>
    next before p cs text d rest hsplit place inner after hmark e' ht =>
    cases h
    have hopen := opensFirst_iff.2 hsplit
    have hclose := closesAt_iff.2 hmark
    obtain ⟨fault, rfl⟩ := exists_fault_of_ofInner ht
    have hbad : Malformed (before.reverse ++ text) d rest fault :=
      (malformed_iff_of_closesAt hclose).2 ht
    refine ⟨text, d, rest, fault, ⟨.here hopen, hbad, ?_⟩, rfl, ?_⟩
    · intro front' d' rest' fault' hreach' _
      rcases hreach'.cases_first hopen with ⟨rfl, -, -⟩ | ⟨_, _, _, _, rfl, -⟩
      · exact Nat.le_refl _
      · simp
    · intro inner' after' hclose' options' behind
      obtain ⟨rfl, rfl⟩ := hclose.unique hclose'
      rw [scanFrom_eq (splitOpener_of_some hsplit d _) (splitMark_eq_some_iff.2 ⟨rfl, hclose.first⟩),
        (malformed_iff_of_closesAt hclose).1 hbad]
      rfl
  | case4 =>
    next before p cs text d rest hsplit place opened inner after hmark t ht closed behind e' hmore
      ih =>
    -- the delimiter here is well formed, so the first malformed one is behind what it encloses
    cases h
    have hopen := opensFirst_iff.2 hsplit
    have hclose := closesAt_iff.2 hmark
    obtain ⟨front, d', rest', fault, ⟨hreach, hbad, hfirst⟩, rfl, hbehind⟩ := ih hmore
    have hplace (front : List Char) : closed.reverse ++ front =
        before.reverse ++ (text ++ (d.opener ++ (inner ++ (d.closer ++ front)))) := by
      simp [closed, opened]
    refine ⟨text ++ (d.opener ++ (inner ++ (d.closer ++ front))), d', rest', fault,
      ⟨.behind hopen hclose hreach, hplace front ▸ hbad, ?_⟩, ?_, ?_⟩
    · intro front' d'' rest'' fault' hreach' hbad'
      rcases hreach'.cases_first hopen with
        ⟨rfl, rfl, rfl⟩ | ⟨inner', after', front', hclose', rfl, hinside⟩
      · cases ht.symm.trans ((malformed_iff_of_closesAt hclose).1 hbad')
      · obtain ⟨rfl, rfl⟩ := hclose.unique hclose'
        have hle := hfirst _ _ _ _ hinside (hplace front' ▸ hbad')
        simp only [List.length_append]
        omega
    · simp only [behind, place, Position.advance_append]
    · intro inner' after' hclose' options' more
      obtain ⟨t', ht'⟩ := exists_ofInner_ok hclose ht options' (p.advance text)
      have hmore' := hbehind inner' after' hclose' options' more
      simp only [List.append_assoc] at hmore' ⊢
      rw [scanFrom_eq (splitOpener_of_some hsplit d _) (splitMark_eq_some_iff.2 ⟨rfl, hclose.first⟩),
        ht']
      show (scanFrom _ _ _ _ >>= _) = _
      rw [hmore']
      rfl

end Scanning

/-- Cutting a source fails as scanning it does. -/
theorem tokenize_eq_error_iff {options : Options} {source : String} {e : Error} :
    tokenize options source = .error e ↔ scanFrom options [] .start source.toList = .error e := by
  rw [tokenize, scan]
  cases scanFrom options [] .start source.toList with
  | error e' => exact ⟨fun h => h, fun h => h⟩
  | ok tokens => exact ⟨nofun, nofun⟩

end Token

open Token

/-- A source has no tokens exactly when a malformed delimiter is reached in it.  The error is about
the first one and tells its place, whatever the options are and whatever is behind the text that it
encloses. -/
theorem tokenize_fails (options : Options) (source : String) :
    ((∃ e, tokenize options source = .error e) ↔ ∃ front d rest fault,
      Reaches source.toList front d rest ∧ Malformed front d rest fault) ∧
    ∀ e, tokenize options source = .error e → ∃ front d rest fault,
      FirstMalformed [] source.toList front d rest fault ∧
      e = .tokenization fault (.behind (String.ofList front)) ∧
      ∀ inner after, ClosesAt d rest inner after → ∀ (options' : Options) (after' : List Char),
        tokenize options'
          (String.ofList (front ++ (d.opener ++ (inner ++ (d.closer ++ after'))))) = .error e := by
  have hfirst {e : Error} (h : tokenize options source = .error e) :=
    firstMalformed_of_scanFrom (tokenize_eq_error_iff.1 h)
  refine ⟨⟨?_, ?_⟩, ?_⟩
  · rintro ⟨e, h⟩
    obtain ⟨front, d, rest, fault, hmal, -⟩ := hfirst h
    exact ⟨front, d, rest, fault, hmal.reaches, hmal.malformed⟩
  · rintro ⟨front, d, rest, fault, hreach, hbad⟩
    cases h : scanFrom options [] .start source.toList with
    | error e => exact ⟨e, tokenize_eq_error_iff.2 h⟩
    | ok tokens => exact absurd hbad (not_malformed_of_scanFrom h hreach)
  · intro e h
    obtain ⟨front, d, rest, fault, hmal, rfl, hbehind⟩ := hfirst h
    refine ⟨front, d, rest, fault, hmal, by rw [Position.advance_start], ?_⟩
    intro inner after hclose options' after'
    rw [tokenize_eq_error_iff, String.toList_ofList]
    exact hbehind inner after hclose options' after'

/-- A source with text of several lines, a closed output, a tag that names nothing, and an output
that is never closed. -/
def misspelled : String :=
  "é\n\x7b\x7b\x7b a \x7d\x7d\x7b%- - x %\x7d \x7b\x7b b"

/-- The first malformed text is told, in its line and column. -/
theorem tokenize_fails_misspelled : ∃ e, tokenize {} misspelled = .error e ∧
    e.message = "illegal tag syntax near \"\x7b%- - x %\x7d\", line 2, col 9" ∧
    (∃ front d rest fault, Reaches misspelled.toList front d rest ∧ Malformed front d rest fault) ∧
    ∃ front d rest fault, FirstMalformed [] misspelled.toList front d rest fault ∧
      e = .tokenization fault (.behind (String.ofList front)) ∧
      ∀ inner after, ClosesAt d rest inner after → ∀ (options' : Options) (after' : List Char),
        tokenize options'
          (String.ofList (front ++ (d.opener ++ (inner ++ (d.closer ++ after'))))) = .error e := by
  have hmessage : (match tokenize {} misspelled with
      | .ok _ => none
      | .error e => some e.message) =
      some "illegal tag syntax near \"\x7b%- - x %\x7d\", line 2, col 9" := by
    decide +kernel
  obtain ⟨hiff, hfirst⟩ := tokenize_fails {} misspelled
  cases h : tokenize {} misspelled with
  | ok tokens =>
    rw [h] at hmessage
    cases hmessage
  | error e =>
    rw [h] at hmessage
    exact ⟨e, rfl, Option.some.inj hmessage, hiff.1 ⟨e, h⟩, hfirst e h⟩

end Stencil
