import Stencil.Proofs.Text.Runs
import Stencil.Proofs.Token.Cutting

/-!
# What trimming removes

A dash inside of a delimiter, or an option for all tags, asks to trim the literal on its side
(`Token.MarksLeft`, `Token.MarksRight`), unless the token stands strictly between a tag `raw` and the
next tag `endraw` (`Token.InRaw`).  Trimming follows these marks in one walk that carries two flags:
whether a raw text is open (`Token.foldl_leavesRaw_eq_true_iff`), and whether the token before asked
for it (`Token.getElem?_trimFrom`).  So every literal loses the white space on the sides that are
asked for, first at its head and then at its tail, and no other token changes (`tokenize_trimmed`).
-/

set_option autoImplicit false

namespace Stencil

open Delimiter

namespace Token

/-- A token asks to trim the literal before it: there is a dash behind its opening delimiter, or it is
a tag and all tags ask for it. -/
def MarksLeft (options : Options) (t : Token) : Prop :=
  ∃ d : Delimiter, t.kind = d.kind ∧
    (d.opener ++ ['-'] <+: t.raw.toList ∨ d = .tag ∧ options.trimLeft)

/-- A token asks to trim the literal behind it: there is a dash before its closing delimiter, or it
is a tag and all tags ask for it. -/
def MarksRight (options : Options) (t : Token) : Prop :=
  ∃ d : Delimiter, t.kind = d.kind ∧
    ('-' :: d.closer <:+ t.raw.toList ∨ d = .tag ∧ options.trimRight)

/-- A token behind some others stands strictly between a tag `raw` and the next tag `endraw`, or the
end of the tokens. -/
def InRaw (before : List Token) (t : Token) : Prop :=
  ∃ front r between, before = front ++ r :: between ∧ r.isTag "raw" ∧
    (∀ s ∈ between, ¬ s.isTag "endraw") ∧ ¬ t.isTag "endraw"

section Marks

variable {options : Options} {d : Delimiter} {p : Position} {inner : List Char} {t : Token}

/-- A delimited text trims to its left if it begins with a dash. -/
theorem Content.trimLeft_ofInner (inner : List Char) :
    (Content.ofInner inner).trimLeft = true ↔ inner.head? = some '-' := by
  by_cases h : inner.head? = some '-'
  · obtain ⟨rest, rfl⟩ := List.head?_eq_some_iff.1 h
    exact ⟨fun _ => rfl, fun _ => rfl⟩
  · simp [Content.ofInner_of_head?_ne h, h]

/-- The dash before a closing delimiter is another one than the dash behind the opening one, when
there is any content. -/
theorem Content.trimRight_ofInner (hne : (Content.ofInner inner).text ≠ []) :
    (Content.ofInner inner).trimRight = true ↔ inner.getLast? = some '-' := by
  by_cases h : inner.head? = some '-'
  · obtain ⟨rest, rfl⟩ := List.head?_eq_some_iff.1 h
    have hright : (Content.ofInner ('-' :: rest)).trimRight = (rest.getLast? == some '-') := rfl
    cases rest with
    | nil => exact absurd rfl hne
    | cons c rest => rw [hright, List.getLast?_cons_cons, beq_iff_eq]
  · rw [Content.ofInner_of_head?_ne h, beq_iff_eq]

/-- A token with a delimiter has content, and its trim marks are the dashes around it and those of
the options. -/
theorem ofInner_marks (h : ofInner options d p inner = .ok t) :
    (t.trimLeft = true ↔ inner.head? = some '-' ∨ d = .tag ∧ options.trimLeft) ∧
      (t.trimRight = true ↔ inner.getLast? = some '-' ∨ d = .tag ∧ options.trimRight) := by
  rw [← Content.trimLeft_ofInner]
  unfold ofInner at h
  cases d with
  | output =>
    dsimp only at h
    split at h
    · cases h
    · next hne =>
      cases h
      rw [← Content.trimRight_ofInner (by simpa using hne)]
      simp
  | tag =>
    dsimp only at h
    split at h
    · cases h
    · next hname =>
      have hne : (Content.ofInner inner).text ≠ [] := by
        intro hnil
        simp [hnil] at hname
      cases h
      rw [← Content.trimRight_ofInner hne]
      simp

/-- A dash behind the opening delimiter is one that the inner text begins with. -/
theorem opener_dash_prefix_iff :
    d.opener ++ ['-'] <+: d.opener ++ inner ++ d.closer ↔ inner.head? = some '-' := by
  rw [List.append_assoc, List.prefix_append_right_inj]
  cases inner with
  | nil => cases d <;> simp [closer]
  | cons c rest => simp [eq_comm]

/-- A dash before the closing delimiter is one that the inner text ends with. -/
theorem dash_closer_suffix_iff :
    '-' :: d.closer <:+ d.opener ++ inner ++ d.closer ↔ inner.getLast? = some '-' := by
  have hlast : (d.opener ++ inner).getLast? = some '-' ↔ inner.getLast? = some '-' := by
    cases inner with
    | nil => cases d <;> simp [opener]
    | cons c rest => rw [List.getLast?_append_cons]
  rw [← hlast]
  constructor
  · rintro ⟨front, h⟩
    have hfront : front ++ ['-'] = d.opener ++ inner := by
      rw [← List.append_left_inj d.closer, ← h, List.append_assoc]
      rfl
    rw [← hfront, List.getLast?_concat]
  · intro h
    obtain ⟨front, hfront⟩ := List.getLast?_eq_some_iff.1 h
    refine ⟨front, ?_⟩
    rw [hfront, List.append_assoc]
    rfl

/-- A token trims to its left just if its text or an option says so. -/
theorem IsPiece.trimLeft_iff (h : IsPiece options t) :
    t.trimLeft = true ↔ t.MarksLeft options := by
  cases h with
  | literal =>
    refine ⟨by simp [Token.literal], ?_⟩
    rintro ⟨d, hkind, -⟩
    exact absurd hkind.symm d.kind_ne_literal
  | @delimited d _ inner _ ht =>
    obtain ⟨hkind, hraw, -⟩ := ofInner_spec ht
    rw [(ofInner_marks ht).1, MarksLeft, hraw, String.toList_ofList, hkind]
    constructor
    · intro h
      exact ⟨d, rfl, h.imp_left opener_dash_prefix_iff.2⟩
    · rintro ⟨d', hsame, h⟩
      obtain rfl := kind_injective hsame
      exact h.imp_left opener_dash_prefix_iff.1

/-- A token trims to its right just if its text or an option says so. -/
theorem IsPiece.trimRight_iff (h : IsPiece options t) :
    t.trimRight = true ↔ t.MarksRight options := by
  cases h with
  | literal =>
    refine ⟨by simp [Token.literal], ?_⟩
    rintro ⟨d, hkind, -⟩
    exact absurd hkind.symm d.kind_ne_literal
  | @delimited d _ inner _ ht =>
    obtain ⟨hkind, hraw, -⟩ := ofInner_spec ht
    rw [(ofInner_marks ht).2, MarksRight, hraw, String.toList_ofList, hkind]
    constructor
    · intro h
      exact ⟨d, rfl, h.imp_left dash_closer_suffix_iff.2⟩
    · rintro ⟨d', hsame, h⟩
      obtain rfl := kind_injective hsame
      exact h.imp_left dash_closer_suffix_iff.1

/-- A literal that is not trimmed has its source text as its value. -/
theorem IsPiece.value_eq (h : IsPiece options t) (ht : t.kind = .literal) : t.value = t.raw := by
  cases h with
  | literal => rfl
  | @delimited d _ _ _ h => exact absurd ((ofInner_spec h).1.symm.trans ht) d.kind_ne_literal

end Marks

section Flags

variable {before : List Token} {t : Token}

/-- A raw text is open behind some tokens when there is a tag `raw` among them with no tag `endraw`
behind it. -/
theorem foldl_leavesRaw_eq_true_iff {tokens : List Token} :
    tokens.foldl leavesRaw false = true ↔ ∃ front r between, tokens = front ++ r :: between ∧
      r.isTag "raw" ∧ ∀ s ∈ between, ¬ s.isTag "endraw" := by
  induction tokens using List.reverseRecOn with
  | nil => simp
  | append_singleton tokens t ih =>
    rw [List.foldl_concat, leavesRaw, isSuspended, Bool.or_eq_true, Bool.and_eq_true, ih]
    constructor
    · rintro (⟨⟨front, r, between, rfl, hr, hbetween⟩, ht⟩ | ht)
      · refine ⟨front, r, between ++ [t], by simp, hr, fun s hs => ?_⟩
        rcases List.mem_append.1 hs with hs | hs
        · exact hbetween s hs
        · rw [List.mem_singleton.1 hs]
          simpa using ht
      · exact ⟨tokens, t, [], rfl, ht, by simp⟩
    · rintro ⟨front, r, between, h, hr, hbetween⟩
      rcases List.eq_nil_or_concat between with rfl | ⟨between, s, rfl⟩
      · obtain ⟨-, ht⟩ := List.append_inj' h rfl
        cases ht
        exact .inr hr
      · rw [List.concat_eq_append, ← List.cons_append, ← List.append_assoc] at h
        obtain ⟨rfl, ht⟩ := List.append_inj' h rfl
        cases ht
        rw [List.concat_eq_append] at hbetween
        refine .inl ⟨⟨front, r, between, rfl, hr, fun s hs => ?_⟩, ?_⟩
        · exact hbetween s (List.mem_append_left _ hs)
        · simpa using hbetween t (by simp)

/-- The marks of a token are ignored when it stands in a raw text. -/
theorem isSuspended_iff :
    isSuspended (before.foldl leavesRaw false) t = true ↔ InRaw before t := by
  rw [isSuspended, Bool.and_eq_true, foldl_leavesRaw_eq_true_iff]
  constructor
  · rintro ⟨⟨front, r, between, h, hr, hbetween⟩, ht⟩
    exact ⟨front, r, between, h, hr, hbetween, by simpa using ht⟩
  · rintro ⟨front, r, between, h, hr, hbetween, ht⟩
    exact ⟨⟨front, r, between, h, hr, hbetween⟩, by simpa using ht⟩

/-- Whether the last of some tokens asks to trim what is behind it; `head` tells it for the token
before them. -/
def tailTrims (inRaw head : Bool) : List Token → Bool
  | [] => head
  | t :: rest => tailTrims (leavesRaw inRaw t) (t.trimRight && !isSuspended inRaw t) rest

/-- Whether trimming is asked for behind tokens is said by the last of them, unless marks are
suspended there. -/
theorem tailTrims_concat (inRaw head : Bool) (before : List Token) (t : Token) :
    tailTrims inRaw head (before ++ [t]) =
      (t.trimRight && !isSuspended (before.foldl leavesRaw inRaw) t) := by
  induction before generalizing inRaw head with
  | nil => rfl
  | cons s before ih => exact ih _ _

/-- Each token is trimmed as the tokens around it ask for. -/
theorem getElem?_trimFrom (greedy inRaw head : Bool) (before after : List Token) (t : Token) :
    (trimFrom greedy inRaw head (before ++ t :: after))[before.length]? =
      some (if t.kind = .literal then
        trimLiteral greedy (tailTrims inRaw head before)
          (headTrims ((before ++ [t]).foldl leavesRaw inRaw) after) t else t) := by
  induction before generalizing inRaw head with
  | nil => rfl
  | cons s before ih =>
    rw [List.cons_append, trimFrom, List.length_cons, List.getElem?_cons_succ]
    exact ih _ _

/-- Trimming drops no token. -/
theorem length_trimFrom (greedy inRaw head : Bool) (tokens : List Token) :
    (trimFrom greedy inRaw head tokens).length = tokens.length := by
  rw [← List.length_map (f := span), map_span_trimFrom, List.length_map]

/-- The token in front of a place asks to trim what is behind it. -/
def AsksBehind (options : Options) (before : List Token) : Prop :=
  ∃ front s, before = front ++ [s] ∧ s.MarksRight options ∧ ¬ InRaw front s

/-- The token behind a place asks to trim what is before it. -/
def AsksBefore (options : Options) (before after : List Token) : Prop :=
  ∃ u rest, after = u :: rest ∧ u.MarksLeft options ∧ ¬ InRaw before u

/-- The scanner trims behind tokens just if they ask for it. -/
theorem tailTrims_iff {options : Options} (h : ∀ s ∈ before, IsPiece options s) :
    tailTrims false false before = true ↔ AsksBehind options before := by
  rcases List.eq_nil_or_concat before with rfl | ⟨front, s, rfl⟩
  · simp [tailTrims, AsksBehind]
  · rw [List.concat_eq_append] at h ⊢
    have hs := (h s (by simp)).trimRight_iff
    rw [tailTrims_concat, Bool.and_eq_true, hs, Bool.not_eq_true', ← Bool.not_eq_true,
      isSuspended_iff]
    constructor
    · rintro ⟨hmark, hraw⟩
      exact ⟨front, s, rfl, hmark, hraw⟩
    · rintro ⟨front', s', heq, hmark, hraw⟩
      obtain ⟨rfl, hlast⟩ := List.append_inj' heq rfl
      cases hlast
      exact ⟨hmark, hraw⟩

/-- The scanner trims before tokens just if they ask for it. -/
theorem headTrims_iff {options : Options} {after : List Token}
    (h : ∀ u ∈ after, IsPiece options u) :
    headTrims (before.foldl leavesRaw false) after = true ↔ AsksBefore options before after := by
  cases after with
  | nil => simp [headTrims, AsksBefore]
  | cons u rest =>
    have hu := (h u (List.mem_cons_self ..)).trimLeft_iff
    rw [headTrims, Bool.and_eq_true, hu, Bool.not_eq_true', ← Bool.not_eq_true, isSuspended_iff]
    constructor
    · rintro ⟨hmark, hraw⟩
      exact ⟨u, rest, rfl, hmark, hraw⟩
    · rintro ⟨u', rest', heq, hmark, hraw⟩
      cases heq
      exact ⟨hmark, hraw⟩

end Flags

section Blanks

/-- What is left of a text behind its white space: behind the longest run of it, or behind the blanks
of the line and at most one line end. -/
inductive TrimsHead : Bool → List Char → List Char → Prop
  | greedy {run rest : List Char} (hrun : ∀ c ∈ run, Text.isBlank c)
      (hrest : ∀ c ∈ rest.head?, ¬ Text.isBlank c) : TrimsHead true (run ++ rest) rest
  | lineEnd {run rest : List Char} (hrun : ∀ c ∈ run, isInlineBlank c) :
      TrimsHead false (run ++ '\n' :: rest) rest
  | inline {run rest : List Char} (hrun : ∀ c ∈ run, isInlineBlank c)
      (hrest : ∀ c ∈ rest.head?, ¬ isInlineBlank c ∧ c ≠ '\n') : TrimsHead false (run ++ rest) rest

/-- What is left of a text before its white space: before the longest run of it, or before the blanks
of the line. -/
inductive TrimsTail : Bool → List Char → List Char → Prop
  | greedy {run rest : List Char} (hrun : ∀ c ∈ run, Text.isBlank c)
      (hrest : ∀ c ∈ rest.getLast?, ¬ Text.isBlank c) : TrimsTail true (rest ++ run) rest
  | inline {run rest : List Char} (hrun : ∀ c ∈ run, isInlineBlank c)
      (hrest : ∀ c ∈ rest.getLast?, ¬ isInlineBlank c) : TrimsTail false (rest ++ run) rest

/-- What is left of a text does not begin with a character that is dropped. -/
theorem not_of_head?_dropWhile (p : Char → Bool) (cs : List Char) :
    ∀ c ∈ (cs.dropWhile p).head?, ¬ p c := by
  intro c hc
  simp [head?_dropWhile p cs c hc]

/-- Trimming a head takes off what it should. -/
theorem trimsHead_trimHead (greedy : Bool) (cs : List Char) :
    TrimsHead greedy cs (trimHead greedy cs) := by
  have hsplit (p : Char → Bool) : cs.takeWhile p ++ cs.dropWhile p = cs :=
    List.takeWhile_append_dropWhile
  have hrun (p : Char → Bool) : ∀ c ∈ cs.takeWhile p, p c :=
    fun c hc => List.mem_takeWhile_imp hc
  cases greedy with
  | true =>
    have h := TrimsHead.greedy (hrun Text.isBlank) (not_of_head?_dropWhile Text.isBlank cs)
    rwa [hsplit] at h
  | false =>
    simp only [trimHead, Bool.false_eq_true, if_false]
    split
    · next rest heq =>
      have h : TrimsHead false _ rest := .lineEnd (hrun isInlineBlank)
      rwa [← heq, hsplit] at h
    · next hne =>
      have hrest : ∀ c ∈ (cs.dropWhile isInlineBlank).head?, ¬ isInlineBlank c ∧ c ≠ '\n' := by
        intro c hc
        refine ⟨not_of_head?_dropWhile isInlineBlank cs c hc, ?_⟩
        rintro rfl
        obtain ⟨rest, heq⟩ := List.head?_eq_some_iff.1 hc
        exact hne rest heq
      have h := TrimsHead.inline (hrun isInlineBlank) hrest
      rwa [hsplit] at h

/-- A text is what is left of it and what is dropped from its end. -/
theorem dropEndWhile_append (p : Char → Bool) (cs : List Char) :
    cs = Text.dropEndWhile p cs ++ (cs.reverse.takeWhile p).reverse := by
  rw [Text.dropEndWhile, ← List.reverse_append, List.takeWhile_append_dropWhile,
    List.reverse_reverse]

/-- Trimming a tail takes off what it should. -/
theorem trimsTail_trimTail (greedy : Bool) (cs : List Char) :
    TrimsTail greedy cs (trimTail greedy cs) := by
  have hrun (p : Char → Bool) : ∀ c ∈ (cs.reverse.takeWhile p).reverse, p c :=
    fun c hc => List.mem_takeWhile_imp (List.mem_reverse.1 hc)
  have hrest (p : Char → Bool) : ∀ c ∈ (Text.dropEndWhile p cs).getLast?, ¬ p c := by
    rw [Text.dropEndWhile, List.getLast?_reverse]
    exact not_of_head?_dropWhile p _
  cases greedy with
  | true =>
    have h := TrimsTail.greedy (hrun Text.isBlank) (hrest Text.isBlank)
    rwa [← dropEndWhile_append] at h
  | false =>
    have h := TrimsTail.inline (hrun isInlineBlank) (hrest isInlineBlank)
    rwa [← dropEndWhile_append] at h

end Blanks

/-- What becomes of a token between some others: an output or a tag stays as it is, and a literal has
for its value its source text, trimmed at the head if the token before it asks for it, and then at the
tail if the token behind it does. -/
structure Trimmed (options : Options) (before : List Token) (t : Token) (after : List Token)
    (u : Token) : Prop where
  delimited : t.kind ≠ .literal → u = t
  literal : t.kind = .literal → ∃ middle value, u = { t with value := String.ofList value } ∧
    (AsksBehind options before → TrimsHead options.greedy t.raw.toList middle) ∧
    (¬ AsksBehind options before → middle = t.raw.toList) ∧
    (AsksBefore options (before ++ [t]) after → TrimsTail options.greedy middle value) ∧
    (¬ AsksBefore options (before ++ [t]) after → value = middle)

/-- A literal is trimmed on both sides as its neighbours ask. -/
theorem trimmed_trimLiteral {options : Options} {before after : List Token} {t : Token}
    {head tail : Bool} (hkind : t.kind = .literal) (hvalue : t.value = t.raw)
    (hhead : head = true ↔ AsksBehind options before)
    (htail : tail = true ↔ AsksBefore options (before ++ [t]) after) :
    Trimmed options before t after (trimLiteral options.greedy head tail t) := by
  refine ⟨fun h => absurd hkind h, fun _ => ?_⟩
  let middle := if head then trimHead options.greedy t.value.toList else t.value.toList
  refine ⟨middle, if tail then trimTail options.greedy middle else middle, rfl, ?_, ?_, ?_, ?_⟩
  · intro h
    rw [← hvalue, show middle = _ from if_pos (hhead.2 h)]
    exact trimsHead_trimHead _ _
  · intro h
    rw [← hvalue, show middle = _ from if_neg (mt hhead.1 h)]
  · intro h
    rw [if_pos (htail.2 h)]
    exact trimsTail_trimTail _ _
  · intro h
    rw [if_neg (mt htail.1 h)]

end Token

open Token

/-- Trimming does to every literal what the marks of its neighbours ask for, and nothing else. -/
theorem tokenize_trimmed {options : Options} {source : String} {tokens : List Token}
    (h : tokenize options source = .ok tokens) :
    ∃ cut, scan options source.toList = .ok cut ∧ tokens.length = cut.length ∧
      ∀ before t after, cut = before ++ t :: after →
        ∃ u, tokens[before.length]? = some u ∧ Trimmed options before t after u := by
  obtain ⟨cut, hscan, rfl⟩ := exists_scan_of_tokenize h
  have hpieces := (scans_of_scanFrom hscan).isPiece
  refine ⟨cut, hscan, length_trimFrom _ _ _ _, ?_⟩
  rintro before t after rfl
  obtain ⟨hbefore, ht, hafter⟩ : (∀ s ∈ before, IsPiece options s) ∧ IsPiece options t ∧
      ∀ s ∈ after, IsPiece options s := by
    simpa [or_imp, forall_and] using hpieces
  refine ⟨_, getElem?_trimFrom _ _ _ _ _ _, ?_⟩
  split
  · next hkind =>
    exact trimmed_trimLiteral hkind (ht.value_eq hkind) (tailTrims_iff hbefore)
      (headTrims_iff hafter)
  · next hkind => exact ⟨fun _ => rfl, fun h => absurd h hkind⟩

/-- A source with a literal that is trimmed on both sides, marks inside of a raw text, and a blank
literal between two marks. -/
def markedSource : String :=
  "a \n\x7b%- raw -%\x7d b \x7b\x7b- x -\x7d\x7d \x7b% endraw -%\x7d c \x7b\x7b- y -\x7d\x7d" ++
    " \n \x7b%- if z %\x7d"

/-- Without greed, marks take off blanks and one line end. -/
theorem tokenize_trimmed_markedSource : ∃ tokens, tokenize { greedy := false } markedSource = .ok tokens ∧
    tokens.map value = ["a \n", "raw", "b ", "x", " ", "endraw", "c", "y", "", "if z"] ∧
      ∃ cut, scan { greedy := false } markedSource.toList = .ok cut ∧ tokens.length = cut.length ∧
        ∀ before t after, cut = before ++ t :: after →
          ∃ u, tokens[before.length]? = some u ∧
            Trimmed { greedy := false } before t after u := by
  have hcheck : (tokenize { greedy := false } markedSource).toOption.map (List.map value) =
      some ["a \n", "raw", "b ", "x", " ", "endraw", "c", "y", "", "if z"] := by
    decide +kernel
  cases h : tokenize { greedy := false } markedSource with
  | error e => simp [h, Except.toOption] at hcheck
  | ok tokens =>
    rw [h] at hcheck
    exact ⟨tokens, rfl, Option.some.inj hcheck, tokenize_trimmed h⟩

end Stencil
