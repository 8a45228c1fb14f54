import Mathlib.Data.List.Chain
import Mathlib.Data.List.Infix
import Stencil.Token.Trim

/-!
# Cutting a source into tokens

The tokens of a source are its text and nothing else.  A scan takes the text up to the next opening
delimiter, then the delimited text up to the first closing one, and goes on behind it
(`Token.Scans`).  So the texts of the tokens are those of the source in order, a literal has no
opening delimiter, no two literals meet, and every token knows the place where it begins
(`tokenize_cut`).  Trimming changes the values of literals only (`Token.map_trimFrom`).
-/

set_option autoImplicit false

namespace Stencil

namespace Delimiter

/-- The kind of the tokens with a delimiter. -/
def kind : Delimiter → TokenKind
  | output => .output
  | tag => .tag

/-- Some delimiter opens in a text. -/
def OpensIn (cs : List Char) : Prop :=
  ∃ d : Delimiter, d.opener <:+: cs

/-- The closing delimiter behind a text is the first one. -/
def ClosesFirst (d : Delimiter) (inner : List Char) : Prop :=
  ∀ before after, inner ++ d.closer = before ++ (d.closer ++ after) → after = []

/-- A text from an opening delimiter to the first closing one behind it. -/
def Encloses (d : Delimiter) (cs : List Char) : Prop :=
  ∃ inner, cs = d.opener ++ (inner ++ d.closer) ∧ d.ClosesFirst inner

/-- No delimiter makes a literal. -/
theorem kind_ne_literal (d : Delimiter) : d.kind ≠ .literal := by
  cases d <;> simp [kind]

/-- Different delimiters make tokens of different kinds. -/
theorem kind_injective {d d' : Delimiter} (h : d.kind = d'.kind) : d = d' := by
  cases d <;> cases d' <;> simp_all [kind]

/-- No delimiter opens in an empty text. -/
theorem not_opensIn_nil : ¬ OpensIn [] := by
  rintro ⟨d, h⟩
  cases d <;> simp [opener] at h

end Delimiter

open Delimiter

namespace Position

/-- The place behind a text: the number of its bytes, its lines, and the characters of its last line,
the last two from one. -/
def behind (text : String) : Position where
  offset := text.utf8ByteSize
  line := 1 + text.toList.count '\n'
  column := 1 + (text.toList.reverse.takeWhile (· != '\n')).length

/-- A place advances over two texts one after the other. -/
theorem advance_append (p : Position) (cs ds : List Char) :
    p.advance (cs ++ ds) = (p.advance cs).advance ds :=
  List.foldl_append

/-- From the start, a place advances to behind the text. -/
theorem advance_start (cs : List Char) : start.advance cs = behind (String.ofList cs) := by
  induction cs using List.reverseRecOn with
  | nil => rfl
  | append_singleton cs c ih =>
    have hsize : (String.ofList (cs ++ [c])).utf8ByteSize =
        (String.ofList cs).utf8ByteSize + c.utf8Size := by
      rw [String.ofList_append, String.utf8ByteSize_append, ← String.utf8ByteSize_singleton]
      rfl
    rw [advance_append, ih]
    show next (behind _) c = _
    rw [behind, behind, hsize, String.toList_ofList, String.toList_ofList]
    by_cases hc : c = '\n'
    · simp [next, hc, Nat.add_assoc]
    · simp [next, hc, Nat.add_comm]

end Position

namespace Token

section Splitting

variable {cs text rest inner after mark : List Char} {d : Delimiter}

/-- The text before the first opening delimiter is in front. -/
theorem splitOpener_fst_prefix (cs : List Char) : (splitOpener cs).1 <+: cs := by
  fun_induction splitOpener cs with
  | case1 | case2 | case3 => exact List.nil_prefix
  | case4 c rest _ _ ih => exact (List.cons_prefix_cons).2 ⟨rfl, ih⟩

/-- No delimiter opens in the text before the first opening one. -/
theorem not_opensIn_splitOpener (cs : List Char) : ¬ OpensIn (splitOpener cs).1 := by
  fun_induction splitOpener cs with
  | case1 | case2 | case3 => exact not_opensIn_nil
  | case4 c rest houtput htag ih =>
    rintro ⟨d, h⟩
    rcases List.infix_cons_iff.1 h with h | h
    · -- an opener here is one in the whole text
      have hwhole := h.trans ((List.cons_prefix_cons).2 ⟨rfl, splitOpener_fst_prefix rest⟩)
      obtain ⟨more, hmore⟩ := hwhole
      cases d with
      | output =>
        simp only [opener, List.cons_append, List.nil_append, List.cons.injEq] at hmore
        exact houtput more hmore.1.symm hmore.2.symm
      | tag =>
        simp only [opener, List.cons_append, List.nil_append, List.cons.injEq] at hmore
        exact htag more hmore.1.symm hmore.2.symm
    · exact ih ⟨d, h⟩

/-- Without an opening delimiter all is text. -/
theorem eq_of_splitOpener_none (h : splitOpener cs = (text, none)) : text = cs := by
  fun_induction splitOpener cs generalizing text with
  | case1 => exact (Prod.mk.inj h).1.symm
  | case2 | case3 => simp at h
  | case4 c rest _ _ ih =>
    simp only [Prod.mk.injEq] at h
    rw [← h.1]
    exact congrArg (c :: ·) (ih (Prod.ext rfl h.2))

/-- A source is the text before its first opening delimiter, the delimiter and the rest. -/
theorem eq_of_splitOpener_some (h : splitOpener cs = (text, some (d, rest))) :
    cs = text ++ (d.opener ++ rest) := by
  fun_induction splitOpener cs generalizing text with
  | case1 => simp at h
  | case2 | case3 =>
    simp only [Prod.mk.injEq, Option.some.injEq] at h
    obtain ⟨rfl, rfl, rfl⟩ := h
    rfl
  | case4 c _ _ _ ih =>
    simp only [Prod.mk.injEq] at h
    rw [← h.1, List.cons_append, ← ih (Prod.ext rfl h.2)]

/-- A mark is found where it occurs first. -/
theorem eq_of_splitMark (h : splitMark mark cs = some (inner, after)) :
    cs = inner ++ (mark ++ after) ∧
      ∀ before rest, inner ++ mark = before ++ (mark ++ rest) → rest = [] := by
  induction cs generalizing inner with
  | nil => simp [splitMark] at h
  | cons c cs ih =>
    simp only [splitMark] at h
    split at h
    · next hmark =>
      obtain ⟨more, hmore⟩ := List.isPrefixOf_iff_prefix.1 hmark
      simp only [Option.some.injEq, Prod.mk.injEq] at h
      obtain ⟨rfl, rfl⟩ := h
      refine ⟨by simp [← hmore], fun before rest heq => ?_⟩
      have hlength := congrArg List.length heq
      simp only [List.length_append, List.length_nil] at hlength
      exact List.length_eq_zero_iff.1 (by omega)
    · next hmark =>
      obtain ⟨⟨inner, after⟩, hs, he⟩ := Option.map_eq_some_iff.1 h
      simp only [Prod.mk.injEq] at he
      obtain ⟨rfl, rfl⟩ := he
      obtain ⟨rfl, hfirst⟩ := ih hs
      refine ⟨rfl, fun before rest heq => ?_⟩
      cases before with
      | nil =>
        -- the mark would stand at the beginning of the text
        rw [List.isPrefixOf_iff_prefix] at hmark
        refine absurd ((List.prefix_append mark rest).trans ?_) hmark
        rw [← List.nil_append (mark ++ rest), ← heq, ← List.append_assoc]
        exact List.prefix_append _ _
      | cons b before => exact hfirst before rest (List.cons.inj heq).2

end Splitting

section Pieces

variable {options : Options} {d : Delimiter} {p : Position} {inner : List Char} {t : Token}

/-- Without a dash in front only the one behind is taken off. -/
theorem Content.ofInner_of_head?_ne (h : inner.head? ≠ some '-') :
    Content.ofInner inner =
      ⟨false, Text.trim (if inner.getLast? == some '-' then inner.dropLast else inner),
        inner.getLast? == some '-'⟩ := by
  unfold Content.ofInner
  split
  next heq =>
  split at heq
  · exact absurd rfl h
  · cases heq
    rfl

/-- A token has the kind of its delimiter, its source text and its place. -/
theorem ofInner_spec (h : ofInner options d p inner = .ok t) :
    t.kind = d.kind ∧ t.raw = String.ofList (d.opener ++ inner ++ d.closer) ∧ t.position = p := by
  unfold ofInner at h
  cases d <;> dsimp only at h <;> split at h <;> cases h <;> exact ⟨rfl, rfl, rfl⟩

/-- A token that a scan makes: literal text, or a text from an opening delimiter to the first closing
one. -/
inductive IsPiece (options : Options) : Token → Prop
  | literal {text : List Char} {p : Position} (hne : text ≠ []) (htext : ¬ OpensIn text) :
      IsPiece options (literal (String.ofList text) p)
  | delimited {d : Delimiter} {p : Position} {inner : List Char} {t : Token}
      (ht : ofInner options d p inner = .ok t) (hinner : d.ClosesFirst inner) : IsPiece options t

/-- No token is empty. -/
theorem IsPiece.raw_ne_empty (h : IsPiece options t) : t.raw ≠ "" := by
  cases h with
  | literal hne =>
    intro he
    exact hne (String.ofList_eq_empty_iff.1 he)
  | @delimited d p inner _ ht =>
    rw [(ofInner_spec ht).2.1]
    intro he
    have hnil := String.ofList_eq_empty_iff.1 he
    cases d <;> simp [opener] at hnil

/-- No delimiter opens in a literal. -/
theorem IsPiece.not_opensIn (h : IsPiece options t) (ht : t.kind = .literal) :
    ¬ OpensIn t.raw.toList := by
  cases h with
  | literal _ htext =>
    show ¬ OpensIn (String.ofList _).toList
    rwa [String.toList_ofList]
  | @delimited d _ _ _ h => exact absurd ((ofInner_spec h).1.symm.trans ht) d.kind_ne_literal

/-- A token that is no literal stands between its delimiters. -/
theorem IsPiece.encloses (h : IsPiece options t) (hd : t.kind = d.kind) :
    d.Encloses t.raw.toList := by
  cases h with
  | literal => exact absurd hd.symm d.kind_ne_literal
  | @delimited d' _ inner _ ht hinner =>
    obtain ⟨hkind, hraw, -⟩ := ofInner_spec ht
    obtain rfl := kind_injective (hkind.symm.trans hd)
    refine ⟨inner, ?_, hinner⟩
    rw [hraw, String.toList_ofList, List.append_assoc]

end Pieces

/-- What a text from a place on is cut into: the text up to an opening delimiter, the token from there
to the first closing one, and what is behind it. -/
inductive Scans (options : Options) : Position → List Char → List Token → Prop
  | last {p : Position} {text : List Char} (htext : ¬ OpensIn text) :
      Scans options p text (literals p text)
  | piece {p : Position} {text inner after : List Char} {d : Delimiter} {t : Token}
      {tokens : List Token} (htext : ¬ OpensIn text)
      (ht : ofInner options d (p.advance text) inner = .ok t) (hinner : d.ClosesFirst inner)
      (hrest : Scans options (p.advance (text ++ (d.opener ++ inner ++ d.closer))) after tokens) :
      Scans options p (text ++ (d.opener ++ (inner ++ (d.closer ++ after))))
        (literals p text ++ t :: tokens)

/-- What is scanned is a cut of the source, by induction on its length. -/
theorem scans_of_scanFrom {options : Options} {before cs : List Char} {p : Position}
    {tokens : List Token} (h : scanFrom options before p cs = .ok tokens) :
    Scans options p cs tokens := by
  have htext (cs text : List Char) {next : Option (Delimiter × List Char)}
      (hsplit : splitOpener cs = (text, next)) : ¬ OpensIn text := by
    have hnot := not_opensIn_splitOpener cs
    rwa [hsplit] at hnot
  fun_induction scanFrom options before p cs generalizing tokens with
  | case1 before p cs text hsplit =>
    cases h
    obtain rfl := eq_of_splitOpener_none hsplit
    exact .last (htext text text hsplit)
  | case2 => cases h
  | case3 => cases h
  | case4 => cases h
  | case5 =>
    next p cs text d rest hsplit _ _ inner after hmark t ht _ _ more hmore ih =>
    cases h
    obtain ⟨hrest, hinner⟩ := eq_of_splitMark hmark
    rw [eq_of_splitOpener_some hsplit, hrest]
    refine .piece (htext cs text hsplit) ht hinner ?_
    rw [Position.advance_append]
    exact ih hmore

section Scans

variable {options : Options} {p : Position} {cs text : List Char} {t : Token}
  {tokens rest : List Token}

/-- A literal between delimited texts has the whole text between them. -/
theorem mem_literals (h : t ∈ literals p text) :
    text ≠ [] ∧ t = literal (String.ofList text) p := by
  unfold literals at h
  split at h
  · cases h
  · next hne => exact ⟨by simpa using hne, List.mem_singleton.1 h⟩

/-- What is scanned is made of pieces. -/
theorem Scans.isPiece (h : Scans options p cs tokens) : ∀ t ∈ tokens, IsPiece options t := by
  have hliterals (p : Position) {text : List Char} (htext : ¬ OpensIn text) :
      ∀ t ∈ literals p text, IsPiece options t := by
    intro t ht
    obtain ⟨hne, rfl⟩ := mem_literals ht
    exact .literal hne htext
  induction h with
  | last htext => exact hliterals _ htext
  | piece htext ht hinner _ ih =>
    intro t h
    rcases List.mem_append.1 h with h | h
    · exact hliterals _ htext t h
    · rcases List.mem_cons.1 h with rfl | h
      · exact .delimited ht hinner
      · exact ih t h

/-- A text between delimited texts is kept. -/
theorem flatMap_raw_literals (p : Position) (text : List Char) :
    (literals p text).flatMap (fun t => t.raw.toList) = text := by
  unfold literals
  split
  · next h => simpa using h.symm
  · simp [literal]

/-- No text of the source is lost. -/
theorem Scans.flatMap_raw (h : Scans options p cs tokens) :
    tokens.flatMap (fun t => t.raw.toList) = cs := by
  induction h with
  | last => exact flatMap_raw_literals _ _
  | piece _ ht _ _ ih =>
    rw [List.flatMap_append, flatMap_raw_literals, List.flatMap_cons, (ofInner_spec ht).2.1, ih]
    simp

/-- No two literals follow each other. -/
theorem Scans.isChain (h : Scans options p cs tokens) :
    tokens.IsChain fun s t => s.kind ≠ .literal ∨ t.kind ≠ .literal := by
  have hliterals (p : Position) (text : List Char) :
      (literals p text).IsChain fun s t => s.kind ≠ .literal ∨ t.kind ≠ .literal := by
    unfold literals
    split <;> simp
  induction h with
  | last => exact hliterals _ _
  | @piece p text inner after d t tokens _ ht _ _ ih =>
    have hkind : t.kind ≠ .literal := (ofInner_spec ht).1 ▸ d.kind_ne_literal
    refine List.isChain_append.2 ⟨hliterals _ _, ?_, ?_⟩
    · cases tokens with
      | nil => exact List.isChain_singleton t
      | cons u rest => exact List.isChain_cons_cons.2 ⟨.inl hkind, ih⟩
    · rintro s - u hu
      cases hu
      exact .inr hkind

/-- Every token begins where the one before it ends, and the first one at the given place. -/
def Placed : Position → List Token → Prop
  | _, [] => True
  | p, t :: rest => t.position = p ∧ Placed (p.advance t.raw.toList) rest

/-- Behind a text between delimited texts, tokens have their places. -/
theorem placed_literals_append (h : Placed (p.advance text) rest) :
    Placed p (literals p text ++ rest) := by
  unfold literals
  split
  · next hempty =>
    rw [List.isEmpty_iff.1 hempty] at h
    exact h
  · refine ⟨rfl, ?_⟩
    show Placed (p.advance (String.ofList text).toList) rest
    rwa [String.toList_ofList]

/-- What is scanned has its places. -/
theorem Scans.placed (h : Scans options p cs tokens) : Placed p tokens := by
  induction h with
  | last =>
    rw [← List.append_nil (literals _ _)]
    exact placed_literals_append trivial
  | piece _ ht _ _ ih =>
    obtain ⟨-, hraw, hposition⟩ := ofInner_spec ht
    apply placed_literals_append
    refine ⟨hposition, ?_⟩
    rw [hraw, String.toList_ofList, ← Position.advance_append]
    exact ih

/-- A token begins where the tokens in front of it end. -/
theorem Placed.position {before after : List Token} (h : Placed p (before ++ t :: after)) :
    t.position = p.advance (before.flatMap fun s => s.raw.toList) := by
  induction before generalizing p with
  | nil => exact h.1
  | cons s before ih =>
    rw [List.flatMap_cons, Position.advance_append]
    exact ih h.2

end Scans

/-- What a token keeps when it is trimmed and that tells where its text is from. -/
def span (t : Token) : TokenKind × String × Position :=
  (t.kind, t.raw, t.position)

/-- Trimming changes the values of literals only. -/
theorem map_trimFrom {α : Type} {f : Token → α} (hf : ∀ t value, f { t with value := value } = f t)
    (greedy inRaw head : Bool) (tokens : List Token) :
    (trimFrom greedy inRaw head tokens).map f = tokens.map f := by
  induction tokens generalizing inRaw head with
  | nil => rfl
  | cons t rest ih =>
    simp only [trimFrom, List.map_cons, ih, List.cons.injEq, and_true]
    split
    · exact hf _ _
    · rfl

/-- Trimming moves no token. -/
theorem map_span_trimFrom (greedy inRaw head : Bool) (tokens : List Token) :
    (trimFrom greedy inRaw head tokens).map span = tokens.map span :=
  map_trimFrom (fun _ _ => rfl) greedy inRaw head tokens

/-- Some tokens are the pieces of a source: their texts in order, none of them empty, literals that
have no opening delimiter and do not meet, outputs and tags from their opening delimiter to the first
closing one, and each token with the place where it begins. -/
structure Cut (source : String) (tokens : List Token) : Prop where
  join_raw : String.join (tokens.map raw) = source
  raw_ne_empty : ∀ t ∈ tokens, t.raw ≠ ""
  literals_apart : tokens.IsChain fun s t => s.kind ≠ .literal ∨ t.kind ≠ .literal
  not_opensIn : ∀ t ∈ tokens, t.kind = .literal → ¬ OpensIn t.raw.toList
  encloses : ∀ t ∈ tokens, ∀ d : Delimiter, t.kind = d.kind → d.Encloses t.raw.toList
  position : ∀ before t after, tokens = before ++ t :: after →
    t.position = .behind (String.join (before.map raw))

/-- Tokens with the same spans are a cut of the same source. -/
theorem Cut.of_map_span_eq {source : String} {tokens tokens' : List Token} (h : Cut source tokens)
    (heq : tokens'.map span = tokens.map span) : Cut source tokens' := by
  have hraw (l : List Token) : l.map raw = (l.map span).map fun s => s.2.1 := by
    rw [List.map_map]
    rfl
  have hmem : ∀ u ∈ tokens', ∃ t ∈ tokens, t.kind = u.kind ∧ t.raw = u.raw := by
    intro u hu
    have hspan : u.span ∈ tokens.map span := heq ▸ List.mem_map_of_mem hu
    obtain ⟨t, ht, hspan⟩ := List.mem_map.1 hspan
    simp only [span, Prod.mk.injEq] at hspan
    exact ⟨t, ht, hspan.1, hspan.2.1⟩
  refine ⟨?_, ?_, ?_, ?_, ?_, ?_⟩
  · rw [hraw, heq, ← hraw]
    exact h.join_raw
  · intro u hu
    obtain ⟨t, ht, -, hraw⟩ := hmem u hu
    exact hraw ▸ h.raw_ne_empty t ht
  · have hkinds : (tokens.map span).IsChain fun s t => s.1 ≠ .literal ∨ t.1 ≠ .literal :=
      (List.isChain_map span).2 h.literals_apart
    rw [← heq] at hkinds
    exact (List.isChain_map span).1 hkinds
  · intro u hu hkind
    obtain ⟨t, ht, hsame, hraw⟩ := hmem u hu
    exact hraw ▸ h.not_opensIn t ht (hsame.trans hkind)
  · intro u hu d hkind
    obtain ⟨t, ht, hsame, hraw⟩ := hmem u hu
    exact hraw ▸ h.encloses t ht d (hsame.trans hkind)
  · rintro before u after rfl
    rw [List.map_append, List.map_cons] at heq
    obtain ⟨before', rest, htokens, hbefore, hrest⟩ := List.map_eq_append_iff.1 heq.symm
    obtain ⟨t, after', rfl, hspan, -⟩ := List.map_eq_cons_iff.1 hrest
    have hposition := h.position before' t after' htokens
    rw [hraw, hbefore, ← hraw] at hposition
    rw [← hposition]
    exact (Prod.mk.inj (Prod.mk.inj hspan.symm).2).2

/-- The tokens of a scan are the pieces of its source. -/
theorem cut_of_scan {options : Options} {source : String} {tokens : List Token}
    (h : scan options source.toList = .ok tokens) : Cut source tokens := by
  have hscans := scans_of_scanFrom h
  have hjoin (l : List Token) :
      String.join (l.map raw) = String.ofList (l.flatMap fun t => t.raw.toList) := by
    rw [← String.toList_inj, String.toList_join, String.toList_ofList, List.flatMap_map]
  refine ⟨?_, fun t ht => (hscans.isPiece t ht).raw_ne_empty, hscans.isChain,
    fun t ht => (hscans.isPiece t ht).not_opensIn, fun t ht d => (hscans.isPiece t ht).encloses, ?_⟩
  · rw [hjoin, hscans.flatMap_raw, String.ofList_toList]
  · rintro before t after rfl
    rw [hscans.placed.position, Position.advance_start, hjoin]

end Token

open Token

/-- The tokens of a source are what is scanned, trimmed. -/
theorem exists_scan_of_tokenize {options : Options} {source : String} {tokens : List Token}
    (h : tokenize options source = .ok tokens) : ∃ cut, scan options source.toList = .ok cut ∧
      tokens = trimFrom options.greedy false false cut := by
  unfold tokenize at h
  cases hscan : scan options source.toList with
  | error e =>
    rw [hscan] at h
    cases h
  | ok cut =>
    rw [hscan] at h
    cases h
    exact ⟨cut, rfl, rfl⟩

/-- A source that has tokens is cut into them. -/
theorem tokenize_cut {options : Options} {source : String} {tokens : List Token}
    (h : tokenize options source = .ok tokens) : Cut source tokens := by
  obtain ⟨cut, hscan, rfl⟩ := exists_scan_of_tokenize h
  exact (cut_of_scan hscan).of_map_span_eq (map_span_trimFrom _ _ _ cut)

/-- A source with characters of several bytes, line ends inside of delimiters, and delimiters that
overlap. -/
def overlapping : String :=
  "é\n\x7b\x7b\x7b x\n\x7d\x7d \x7b%- if ü\n%%\x7d\x7d"

/-- Delimiters that overlap are cut from the left. -/
theorem tokenize_cut_overlapping : ∃ tokens, tokenize {} overlapping = .ok tokens ∧
    tokens.length = 5 ∧ Cut overlapping tokens := by
  have hcheck : (tokenize {} overlapping).toOption.map List.length = some 5 := by
    decide +kernel
  cases h : tokenize {} overlapping with
  | error e => simp [h, Except.toOption] at hcheck
  | ok tokens =>
    rw [h] at hcheck
    exact ⟨tokens, rfl, Option.some.inj hcheck, tokenize_cut h⟩

end Stencil
