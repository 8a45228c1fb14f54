import Stencil.Proofs.Token.Joining

/-!
# Dashes in the place of options

The options that trim around every tag mean the same as a dash inside of both delimiters of every tag
(`tokenize_markedSource`).  A dash neither closes a tag nor keeps it open
(`Delimiter.ClosesFirst.dashed`), it is taken off before the content of the tag is read
(`Token.Content.ofInner_dashed`), and trimming looks at what a token asks for and not at its source
text (`Token.map_unsourced_trimFrom`).
-/

set_option autoImplicit false

namespace Stencil

open Delimiter

namespace Token

/-- The content of a tag with a dash at both ends: there is one put in front unless the content begins
with one, and one behind unless what is left of it ends with one. -/
def dashed (inner : List Char) : List Char :=
  let rest := match inner with
    | '-' :: rest => rest
    | inner => inner
  '-' :: if rest.getLast? = some '-' then rest else rest ++ ['-']

/-- The text between the delimiters of a token. -/
def inner (t : Token) : List Char :=
  (t.raw.toList.drop 2).take (t.raw.toList.length - 4)

/-- The source text of a token, and for a tag with a dash inside of both delimiters. -/
def marked (t : Token) : List Char :=
  if t.kind = .tag then Delimiter.tag.opener ++ (dashed t.inner ++ Delimiter.tag.closer)
  else t.raw.toList

/-- The source of some tokens in which every tag asks to trim on both sides. -/
def markedSource (tokens : List Token) : String :=
  String.ofList (tokens.flatMap marked)

/-- What a token is read as. -/
def reading (t : Token) : TokenKind × String × String × String :=
  (t.kind, t.name, t.args, t.value)

/-- A token without its source text and its place. -/
def unsourced (t : Token) : Token :=
  { t with raw := "", position := .start }

end Token

open Token

/-- The options without those that trim around every tag. -/
def Options.untrimmed (options : Options) : Options :=
  { options with trimLeft := false, trimRight := false }

section Dashes

variable {options : Options} {d : Delimiter} {p p' : Position} {inner : List Char} {t : Token}

/-- A tag is closed by the first closing delimiter when there is none in its content. -/
theorem Delimiter.closesFirst_tag_iff :
    ClosesFirst .tag inner ↔ ¬ Delimiter.tag.closer <:+: inner := by
  constructor
  · rintro hfirst ⟨before, after, rfl⟩
    have hnil := hfirst before (after ++ Delimiter.tag.closer) (by simp)
    cases after <;> cases hnil
  · intro hnot before after h
    -- a closing delimiter further to the left would end in the content, or with its last character
    rcases List.eq_nil_or_concat after with rfl | ⟨after, c, rfl⟩
    · rfl
    · have hlast : inner ++ ['%'] = before ++ (Delimiter.tag.closer ++ after) := by
        have hends : (inner ++ ['%']) ++ ['\x7d'] =
            (before ++ (Delimiter.tag.closer ++ after)) ++ [c] := by
          simpa [closer] using h
        exact (List.append_inj' hends rfl).1
      rcases List.eq_nil_or_concat after with rfl | ⟨after, c', rfl⟩
      · have hends : inner ++ ['%'] = (before ++ ['%']) ++ ['\x7d'] := by
          simpa [closer] using hlast
        have hchars := (List.append_inj' hends rfl).2
        simp at hchars
      · have hends : inner ++ ['%'] = (before ++ (Delimiter.tag.closer ++ after)) ++ [c'] := by
          simpa using hlast
        refine absurd ⟨before, after, ?_⟩ hnot
        rw [(List.append_inj' hends rfl).1, List.append_assoc]

/-- A dash in the content of a tag neither closes it nor keeps it open. -/
theorem Delimiter.ClosesFirst.dashed (h : ClosesFirst .tag inner) :
    ClosesFirst .tag (Token.dashed inner) := by
  rw [closesFirst_tag_iff] at h ⊢
  have hcons (rest : List Char) :
      Delimiter.tag.closer <:+: '-' :: rest ↔ Delimiter.tag.closer <:+: rest := by
    simp [List.infix_cons_iff, closer]
  have hconcat (rest : List Char) :
      Delimiter.tag.closer <:+: rest ++ ['-'] ↔ Delimiter.tag.closer <:+: rest := by
    have hsuffix : ¬ Delimiter.tag.closer <:+ rest ++ ['-'] := by
      rintro ⟨before, h⟩
      have hends : (before ++ ['%']) ++ ['\x7d'] = rest ++ ['-'] := by simpa [closer] using h
      have hchars := (List.append_inj' hends rfl).2
      simp at hchars
    rw [List.infix_concat_iff, or_iff_right hsuffix]
  have hrest (rest : List Char) (h : ¬ Delimiter.tag.closer <:+: rest) :
      ¬ Delimiter.tag.closer <:+:
        '-' :: if rest.getLast? = some '-' then rest else rest ++ ['-'] := by
    rw [hcons]
    split
    · exact h
    · rwa [hconcat]
  unfold Token.dashed
  split
  · next rest => exact hrest rest (mt (hcons rest).2 h)
  · exact hrest inner h

namespace Token

/-- The dashes of a tag are taken off before its content is read, whoever put them there. -/
theorem Content.ofInner_dashed (inner : List Char) :
    Content.ofInner (dashed inner) = ⟨true, (Content.ofInner inner).text, true⟩ := by
  have hrest (rest : List Char) :
      Content.ofInner ('-' :: if rest.getLast? = some '-' then rest else rest ++ ['-']) =
        ⟨true, Text.trim (if rest.getLast? == some '-' then rest.dropLast else rest), true⟩ := by
    by_cases h : rest.getLast? = some '-' <;> simp [Content.ofInner, h]
  unfold dashed
  split
  · exact hrest _
  · next hne =>
    have hhead : inner.head? ≠ some '-' := by
      intro h
      obtain ⟨rest, rfl⟩ := List.head?_eq_some_iff.1 h
      exact hne rest rfl
    rw [hrest, Content.ofInner_of_head?_ne hhead]

/-- The content of a token as it is written with the options that trim around tags, or with dashes.
-/
def markedInner : Delimiter → List Char → List Char
  | .output, inner => inner
  | .tag, inner => dashed inner

/-- A token with its marks written out is what stands between its delimiters with them. -/
theorem marked_of_ofInner (h : ofInner options d p inner = .ok t) :
    t.marked = d.opener ++ (markedInner d inner ++ d.closer) := by
  obtain ⟨hkind, hraw, -⟩ := ofInner_spec h
  cases d with
  | output => simp [marked, markedInner, hkind, hraw, Delimiter.kind]
  | tag =>
    have hinner : t.inner = inner := by
      simp [Token.inner, hraw, opener, closer]
    simp [marked, markedInner, hkind, hinner, Delimiter.kind]

/-- With the dashes a token is what it is with the options. -/
theorem exists_ofInner_marked (hleft : options.trimLeft = true) (hright : options.trimRight = true)
    (h : ofInner options d p inner = .ok t) (p' : Position) :
    ∃ t', ofInner options.untrimmed d p' (markedInner d inner) = .ok t' ∧
      t'.unsourced = t.unsourced := by
  unfold ofInner at h ⊢
  cases d with
  | output =>
    dsimp only [markedInner] at h ⊢
    split at h
    · cases h
    · next hne =>
      cases h
      rw [if_neg hne]
      exact ⟨_, rfl, rfl⟩
  | tag =>
    dsimp only [markedInner] at h ⊢
    rw [Content.ofInner_dashed]
    split at h
    · cases h
    · next hne =>
      cases h
      rw [if_neg hne]
      refine ⟨_, rfl, ?_⟩
      simp [unsourced, hleft, hright]

/-- Writing marks out makes no closing delimiter. -/
theorem closesFirst_markedInner (h : d.ClosesFirst inner) : d.ClosesFirst (markedInner d inner) := by
  cases d with
  | output => exact h
  | tag => exact h.dashed

end Token

end Dashes

namespace Token

section Scanning

variable {options : Options} {before cs : List Char} {p : Position} {tokens : List Token}

/-- A text between delimited texts is read alike at any place. -/
theorem map_unsourced_literals (p p' : Position) (text : List Char) :
    (literals p' text).map unsourced = (literals p text).map unsourced := by
  unfold literals
  split <;> rfl

/-- A text between delimited texts has no marks. -/
theorem flatMap_marked_literals (p : Position) (text : List Char) :
    (literals p text).flatMap marked = text := by
  unfold literals
  split
  · next h => simpa using h.symm
  · simp [marked, literal]

/-- The marked source of some tokens is cut where their source was cut. -/
theorem exists_scanFrom_marked (hleft : options.trimLeft = true)
    (hright : options.trimRight = true) (h : scanFrom options before p cs = .ok tokens)
    (before' : List Char) (p' : Position) :
    ∃ tokens', scanFrom options.untrimmed before' p' (tokens.flatMap marked) = .ok tokens' ∧
      tokens'.map unsourced = tokens.map unsourced := by
  fun_induction scanFrom options before p cs generalizing tokens before' p' with
  | case1 before p cs text hsplit =>
    cases h
    obtain rfl := eq_of_splitOpener_none hsplit
    rw [flatMap_marked_literals]
    exact ⟨_, scanFrom_last hsplit, map_unsourced_literals p p' text⟩
  | case2 | case3 | case4 => cases h
  | case5 =>
    next p _ text d _ hsplit _ _ inner _ hmark t ht _ _ more hmore ih =>
    cases h
    obtain ⟨-, hfirst⟩ := splitMark_eq_some_iff.1 hmark
    obtain ⟨t', ht', hsame⟩ := exists_ofInner_marked hleft hright ht (p'.advance text)
    obtain ⟨more', hmore', hsames⟩ := ih hmore _ _
    have hmark' : splitMark d.closer (markedInner d inner ++ (d.closer ++ more.flatMap marked)) = _ :=
      splitMark_eq_some_iff.2 ⟨rfl, closesFirst_markedInner hfirst⟩
    have hsource : (literals p text ++ t :: more).flatMap marked =
        text ++ (d.opener ++ (markedInner d inner ++ (d.closer ++ more.flatMap marked))) := by
      rw [List.flatMap_append, flatMap_marked_literals, List.flatMap_cons, marked_of_ofInner ht]
      simp only [List.append_assoc]
    rw [hsource]
    refine ⟨_, scanFrom_piece (splitOpener_of_some hsplit d _) hmark' ht' hmore', ?_⟩
    rw [List.map_append, List.map_append, List.map_cons, List.map_cons, hsame, hsames,
      map_unsourced_literals]

/-- Trimming looks neither at the source text of a token nor at its place. -/
theorem map_unsourced_trimFrom (greedy inRaw head : Bool) (tokens : List Token) :
    (trimFrom greedy inRaw head tokens).map unsourced =
      trimFrom greedy inRaw head (tokens.map unsourced) := by
  induction tokens generalizing inRaw head with
  | nil => rfl
  | cons t rest ih =>
    have htail (inside : Bool) : headTrims inside (rest.map unsourced) = headTrims inside rest := by
      cases rest <;> rfl
    rw [trimFrom, List.map_cons, ih, List.map_cons, trimFrom, htail]
    congr 1
    rw [apply_ite unsourced]
    rfl

end Scanning

end Token

/-- A source whose tags are all trimmed around because of the options has the same tokens, but for
their source texts, when its tags are marked with dashes instead. -/
theorem tokenize_markedSource {options : Options} (hleft : options.trimLeft = true)
    (hright : options.trimRight = true) {source : String} {tokens : List Token}
    (h : tokenize options source = .ok tokens) :
    ∃ tokens', tokenize options.untrimmed (markedSource tokens) = .ok tokens' ∧
      tokens'.length = tokens.length ∧ tokens'.map reading = tokens.map reading := by
  obtain ⟨cut, hscan, rfl⟩ := exists_scan_of_tokenize h
  obtain ⟨cut', hcut', hsame⟩ := exists_scanFrom_marked hleft hright hscan [] .start
  have hsource : markedSource (trimFrom options.greedy false false cut) =
      String.ofList (cut.flatMap marked) := by
    have hmap := map_trimFrom (f := marked) (fun _ _ => rfl) options.greedy false false cut
    rw [markedSource, List.flatMap_def, hmap, ← List.flatMap_def]
  have htrim : (trimFrom options.greedy false false cut').map unsourced =
      (trimFrom options.greedy false false cut).map unsourced := by
    rw [map_unsourced_trimFrom, map_unsourced_trimFrom, hsame]
  refine ⟨trimFrom options.greedy false false cut', ?_, ?_, ?_⟩
  · rw [hsource, tokenize, scan, String.toList_ofList, hcut']
    rfl
  · simpa using congrArg List.length htrim
  · have hreading (tokens : List Token) : tokens.map reading = (tokens.map unsourced).map reading := by
      rw [List.map_map]
      rfl
    rw [hreading, htrim, ← hreading]

/-- Options that trim the line around every tag. -/
def trimmedLines : Options :=
  { greedy := false, trimLeft := true, trimRight := true }

/-- A source with tags that end in dashes, in a percent sign, or that have dashes already, and with a
raw text. -/
def dashingSource : String :=
  "a \n\x7b%if x--%\x7d \n\x7b\x7b- y -\x7d\x7d \x7b%- raw -%\x7d b \x7b\x7b- z \x7d\x7d c" ++
    " \x7b% endraw%%\x7d \n \x7b% endif - %\x7d"

/-- The same source with a dash inside of every delimiter of a tag. -/
def dashedSource : String :=
  "a \n\x7b%-if x--%\x7d \n\x7b\x7b- y -\x7d\x7d \x7b%- raw -%\x7d b \x7b\x7b- z \x7d\x7d c" ++
    " \x7b%- endraw%-%\x7d \n \x7b%- endif - -%\x7d"

/-- Marks by option and marks by dash are written out as dashes, and read alike without the options.
-/
theorem tokenize_markedSource_dashing : trimmedLines.trimLeft = true ∧
    trimmedLines.trimRight = true ∧ ∃ tokens, tokenize trimmedLines dashingSource = .ok tokens ∧
      markedSource tokens = dashedSource ∧
      ∃ tokens', tokenize trimmedLines.untrimmed (markedSource tokens) = .ok tokens' ∧
        tokens'.length = tokens.length ∧ tokens'.map reading = tokens.map reading := by
  have hcheck : (tokenize trimmedLines dashingSource).toOption.map markedSource =
      some dashedSource := by
    decide +kernel
  refine ⟨rfl, rfl, ?_⟩
  cases h : tokenize trimmedLines dashingSource with
  | error e => simp [h, Except.toOption] at hcheck
  | ok tokens =>
    rw [h] at hcheck
    exact ⟨tokens, rfl, Option.some.inj hcheck, tokenize_markedSource rfl rfl h⟩

end Stencil
