import Stencil.Proofs.Expr.Names
import Stencil.Proofs.Text.Runs

/-!
# How lexemes are spelled

The lexer takes the longest text that is a lexeme, so it depends on what is behind a lexeme whether
the lexeme ends there or goes on (`Lexeme.GoesOn`).  A text spells a lexeme if it is taken as that
lexeme in front of all that the lexeme does not go on with (`Lexeme.Spells`), and whatever is taken
spells the lexeme that it is taken as (`Lexeme.exists_spelling`).  So the lexemes of two texts are
those of the joined text, if none of the first text goes on with the second one
(`Lexeme.Cut.append`).  As no lexeme goes on with white space, a blank between them is enough
(`Lexeme.cut_of_lex`).
-/

set_option autoImplicit false

namespace Stencil

/-- What is made of a result tells that there is one. -/
theorem exists_ok_of_map_eq_ok {ε α β : Type} {r : Except ε α} {f : α → β} {b : β}
    (h : r.map f = .ok b) : ∃ a, r = .ok a ∧ f a = b := by
  cases r with
  | error e => cases h
  | ok a => exact ⟨a, rfl, Except.ok.inj h⟩

namespace Text

variable {c : Char}

/-- White space is in no table of characters that its ranges do not meet. -/
theorem inRanges_of_isBlank {table : List Range} (h : isBlank c = true)
    (htable : ∀ r ∈ blankRanges, ∀ i ≤ r.2 - r.1, inRanges table (r.1 + i) = false) :
    inRanges table c.toNat = false := by
  obtain ⟨r, hr, hlow, hhigh⟩ := exists_range_of_inRanges h
  have hc := htable r hr (c.toNat - r.1) (by omega)
  rwa [show r.1 + (c.toNat - r.1) = c.toNat by omega] at hc

/-- White space is no digit. -/
theorem not_isDigit_of_isBlank (h : isBlank c = true) : isDigit c = false :=
  inRanges_of_isBlank h (by decide +kernel)

/-- White space does not go on with a name. -/
theorem not_isNameRest_of_isBlank (h : isBlank c = true) : isNameRest c = false := by
  have hword : isWord c = false := inRanges_of_isBlank h (by decide +kernel)
  have hdash : c ≠ '-' := by
    rintro rfl
    exact absurd h (by decide)
  simp [isNameRest, hword, hdash]

end Text

/-- There is no white space in a mark. -/
theorem Punct.not_isBlank_of_mem (p : Punct) {c : Char} (hc : c ∈ p.chars) :
    Text.isBlank c = false := by
  have hall : p.chars.all (fun d => !Text.isBlank d) = true := by cases p <;> decide
  simpa using List.all_eq_true.1 hall c hc

namespace Lexeme

open Text

/-- A lexeme goes on with the text behind it. -/
inductive GoesOn : Lexeme → List Char → Prop
  | digit {n : Number} {d : Char} {more : List Char} (h : isDigit d = true) :
      GoesOn (.number n) (d :: more)
  | fraction {n : Int} {d : Char} {more : List Char} (h : isDigit d = true) :
      GoesOn (.number (.int n)) ('.' :: d :: more)
  | name {w : String} {c : Char} {more : List Char} (hw : w.toList.getLast? ≠ some '?')
      (h : isNameRest c = true ∨ c = '?') : GoesOn (.word w) (c :: more)
  | mark {p q : Punct} {c : Char} {more : List Char} (h : q.chars = p.chars ++ [c]) :
      GoesOn (.punct p) (c :: more)

/-- A text that begins with `c` spells a lexeme. -/
def Spells (c : Char) (body : List Char) (l : Lexeme) : Prop :=
  ∀ more, ¬ l.GoesOn more → next c (body ++ more) = .ok (l, more)

section Strings

/-- A text between two quotes without this quote in it is a string. -/
theorem spells_string {quote : Char} {s : List Char} (hquote : quote = '"' ∨ quote = '\'')
    (hs : quote ∉ s) : Spells quote (s ++ [quote]) (.string (String.ofList s)) := by
  intro more _
  have hall : ∀ a ∈ s, (a != quote) = true := by
    intro a ha
    simp only [bne_iff_ne]
    rintro rfl
    exact hs ha
  have hstop : ∀ a ∈ (quote :: more).head?, (a != quote) = false := by simp
  obtain ⟨htake, hdrop⟩ := takeWhile_dropWhile_append hall hstop
  rw [List.append_assoc, List.singleton_append, next, if_pos hquote, hdrop, htake]

end Strings

section Numbers

variable {sign digits fraction body text more : List Char} {c : Char}

/-- A dot is no digit. -/
theorem head?_dot (tail : List Char) : ∀ d ∈ ('.' :: tail).head?, isDigit d = false := by
  rintro _ ⟨⟩
  decide

/-- A number may have a minus sign. -/
def IsSign (sign : List Char) : Prop :=
  sign = [] ∨ sign = ['-']

/-- A text of one digit or more. -/
def IsDigits (digits : List Char) : Prop :=
  digits ≠ [] ∧ ∀ d ∈ digits, isDigit d = true

/-- A text has no fraction of a number in front. -/
def NoFraction (more : List Char) : Prop :=
  ∀ d tail, more = '.' :: d :: tail → isDigit d = false

/-- A number may have a sign in front of what is read without one. -/
theorem splitNumber?_append (hsign : IsSign sign) (hbody : body.head? ≠ some '-') :
    splitNumber? (sign ++ body) = splitUnsigned? sign body := by
  obtain rfl | rfl := hsign
  · cases body with
    | nil => rfl
    | cons c more => exact splitNumber?_unsigned (by simpa using hbody)
  · rfl

/-- Every text has a sign in front, or none. -/
theorem exists_sign (cs : List Char) :
    ∃ sign body, IsSign sign ∧ cs = sign ++ body ∧ splitNumber? cs = splitUnsigned? sign body := by
  by_cases h : cs.head? = some '-'
  · obtain ⟨body, rfl⟩ : ∃ body, cs = '-' :: body := by
      cases cs with
      | nil => cases h
      | cons c body =>
        cases h
        exact ⟨body, rfl⟩
    exact ⟨['-'], body, .inr rfl, rfl, rfl⟩
  · exact ⟨[], cs, .inl rfl, rfl, splitNumber?_append (.inl rfl) h⟩

/-- A text that begins with neither a minus sign nor a digit begins with no number. -/
theorem splitNumber?_eq_none (hdash : c ≠ '-') (hdigit : isDigit c = false) :
    splitNumber? (c :: body) = none := by
  rw [splitNumber?_unsigned hdash, splitUnsigned?, List.takeWhile_cons, hdigit]
  rfl

/-- Digits are taken off a text where no digit follows and no fraction. -/
theorem splitUnsigned?_digits (hdigits : IsDigits digits)
    (hmore : ∀ d ∈ more.head?, isDigit d = false) (hfraction : NoFraction more) :
    splitUnsigned? sign (digits ++ more) = some (sign ++ digits, more) := by
  obtain ⟨htake, hdrop⟩ := takeWhile_dropWhile_append hdigits.2 hmore
  unfold splitUnsigned?
  rw [htake, hdrop, if_neg (by simpa using hdigits.1)]
  split
  · next tail =>
    have htail : (tail.takeWhile isDigit).isEmpty = true := by
      cases tail with
      | nil => rfl
      | cons d tail => rw [List.takeWhile_cons, hfraction d tail rfl]; rfl
    rw [if_pos htail]
  · rfl

/-- Digits with a fraction are taken off a text where no digit follows. -/
theorem splitUnsigned?_fraction (hdigits : IsDigits digits) (hfraction : IsDigits fraction)
    (hmore : ∀ d ∈ more.head?, isDigit d = false) :
    splitUnsigned? sign (digits ++ '.' :: (fraction ++ more)) =
      some (sign ++ digits ++ '.' :: fraction, more) := by
  obtain ⟨htake, hdrop⟩ := takeWhile_dropWhile_append hdigits.2 (head?_dot (fraction ++ more))
  obtain ⟨htake', hdrop'⟩ := takeWhile_dropWhile_append hfraction.2 hmore
  unfold splitUnsigned?
  rw [htake, hdrop, if_neg (by simpa using hdigits.1)]
  show (if ((fraction ++ more).takeWhile isDigit).isEmpty then _ else _) = _
  rw [htake', hdrop', if_neg (by simpa using hfraction.1)]

/-- The two forms of a number. -/
theorem of_splitUnsigned? (h : splitUnsigned? sign body = some (text, more)) :
    ∃ digits, IsDigits digits ∧ (∀ d ∈ more.head?, isDigit d = false) ∧
      ((text = sign ++ digits ∧ body = digits ++ more ∧ NoFraction more) ∨
        ∃ fraction, IsDigits fraction ∧ text = sign ++ digits ++ '.' :: fraction ∧
          body = digits ++ '.' :: (fraction ++ more)) := by
  have hbody := List.takeWhile_append_dropWhile (p := isDigit) (l := body)
  have hstops := head?_dropWhile isDigit body
  unfold splitUnsigned? at h
  split at h
  · cases h
  · next hne =>
    have hdigits : IsDigits (body.takeWhile isDigit) :=
      ⟨by simpa using hne, fun d hd => List.mem_takeWhile_imp hd⟩
    refine ⟨_, hdigits, ?_⟩
    split at h
    · next tail heq =>
      rw [heq] at hbody
      split at h
      · next hempty =>
        cases h
        refine ⟨head?_dot tail, .inl ⟨rfl, hbody.symm, ?_⟩⟩
        intro d tail' htail
        cases htail
        by_contra hd
        simp [hd] at hempty
      · next hne' =>
        cases h
        refine ⟨head?_dropWhile isDigit tail, .inr ⟨_, ⟨by simpa using hne', ?_⟩, rfl, ?_⟩⟩
        · exact fun d hd => List.mem_takeWhile_imp hd
        · rw [List.takeWhile_append_dropWhile]
          exact hbody.symm
    · next hdot =>
      cases h
      refine ⟨hstops, .inl ⟨rfl, hbody.symm, ?_⟩⟩
      intro d tail htail
      exact absurd htail (hdot _)

/-- A text of digits begins with a digit. -/
theorem IsDigits.head?_ne (hdigits : IsDigits digits) {d : Char} (hd : isDigit d = false)
    (more : List Char) : (digits ++ more).head? ≠ some d := by
  cases digits with
  | nil => exact absurd rfl hdigits.1
  | cons d' digits =>
    have hd' := hdigits.2 d' (List.mem_cons_self ..)
    rintro h
    cases h
    rw [hd] at hd'
    cases hd'

/-- In digits behind a sign, there is nothing else. -/
theorem not_mem_signed (hsign : IsSign sign) (hdigits : IsDigits digits) {d : Char}
    (hdash : d ≠ '-') (hd : isDigit d = false) : d ∉ sign ++ digits := by
  intro h
  rcases List.mem_append.1 h with h | h
  · obtain rfl | rfl := hsign
    · cases h
    · exact hdash (List.mem_singleton.1 h)
  · rw [hdigits.2 d h] at hd
    cases hd

variable {n : Number}

/-- Without a point, a text stands for an integer. -/
theorem number?_of_not_mem {cs : List Char} (h : '.' ∉ cs) :
    number? cs = (Number.readSigned64? cs).map .int := by
  rw [number?, if_neg (by simpa using h)]

/-- With a point, a text stands for a floating point number. -/
theorem number?_of_mem {cs : List Char} (h : '.' ∈ cs) :
    number? cs = (Number.readFloat? cs).map .float := by
  rw [number?, if_pos (by simpa using h)]

/-- A number begins with no quote. -/
theorem not_quote_of_splitNumber? {rest : List Char} {split : List Char × List Char}
    (h : splitNumber? (c :: rest) = some split) : ¬ (c = '"' ∨ c = '\'') := by
  rintro (rfl | rfl)
  · rw [splitNumber?_eq_none (by decide) (by decide)] at h
    cases h
  · rw [splitNumber?_eq_none (by decide) (by decide)] at h
    cases h

/-- A text that begins with a number begins with this lexeme. -/
theorem next_number {rest : List Char} (hsplit : splitNumber? (c :: rest) = some (text, more))
    (hn : number? text = some n) : next c rest = .ok (.number n, more) := by
  rw [next, if_neg (not_quote_of_splitNumber? hsplit), hsplit]
  dsimp only
  rw [hn]

/-- A number that ends is not followed by a digit. -/
theorem not_isDigit_of_not_goesOn (h : ¬ (number n).GoesOn more) :
    ∀ d ∈ more.head?, isDigit d = false := by
  intro d hd
  obtain ⟨more, rfl⟩ := List.head?_eq_some_iff.1 hd
  by_contra hdigit
  exact h (.digit (by simpa using hdigit))

/-- A whole number is spelled by its digits. -/
theorem spells_digits (hsign : IsSign sign) (hdigits : IsDigits digits)
    (htext : c :: body = sign ++ digits) (hn : number? (sign ++ digits) = some n) :
    Spells c body (.number n) := by
  intro more hmore
  obtain ⟨i, -, rfl⟩ : ∃ i, Number.readSigned64? (sign ++ digits) = some i ∧ .int i = n := by
    rw [number?_of_not_mem (not_mem_signed hsign hdigits (by decide) (by decide))] at hn
    exact Option.map_eq_some_iff.1 hn
  refine next_number ?_ hn
  have hfraction : NoFraction more := by
    rintro d tail rfl
    by_contra h
    exact hmore (.fraction (by simpa using h))
  rw [← List.cons_append, htext, List.append_assoc,
    splitNumber?_append hsign (hdigits.head?_ne (by decide) more),
    splitUnsigned?_digits hdigits (not_isDigit_of_not_goesOn hmore) hfraction]

/-- Any other number is spelled by digits with a point among them. -/
theorem spells_fraction (hsign : IsSign sign) (hdigits : IsDigits digits)
    (hfraction : IsDigits fraction) (htext : c :: body = sign ++ digits ++ '.' :: fraction)
    (hn : number? (sign ++ digits ++ '.' :: fraction) = some n) : Spells c body (.number n) := by
  intro more hmore
  refine next_number ?_ hn
  rw [← List.cons_append, htext, List.append_assoc, List.append_assoc,
    splitNumber?_append hsign (hdigits.head?_ne (by decide) _), List.cons_append,
    splitUnsigned?_fraction hdigits hfraction (not_isDigit_of_not_goesOn hmore)]

/-- What is taken off as a number spells it, and the number ends there. -/
theorem exists_spelling_number {rest after : List Char}
    (hsplit : splitNumber? (c :: rest) = some (text, after)) (hn : number? text = some n) :
    ∃ body, rest = body ++ after ∧ Spells c body (.number n) ∧ ¬ (number n).GoesOn after := by
  obtain ⟨sign, unsigned, hsign, hcs, hunsigned⟩ := exists_sign (c :: rest)
  rw [hunsigned] at hsplit
  obtain ⟨digits, hdigits, hstop, hforms⟩ := of_splitUnsigned? hsplit
  have hfirst (tail : List Char) : ∃ d ds, sign ++ digits ++ tail = d :: ds :=
    List.exists_cons_of_ne_nil (by simp [hdigits.1])
  have hdigit : ∀ d more, after = d :: more → isDigit d = true → False := by
    rintro d more rfl hd
    rw [hstop d rfl] at hd
    cases hd
  obtain ⟨rfl, rfl, hfraction⟩ | ⟨fraction, hfraction, rfl, rfl⟩ := hforms
  · obtain ⟨d, body, hbody⟩ := hfirst []
    rw [List.append_nil] at hbody
    rw [← List.append_assoc, hbody] at hcs
    cases hcs
    refine ⟨body, rfl, spells_digits hsign hdigits hbody.symm hn, ?_⟩
    intro hgoes
    cases hgoes with
    | digit hd => exact hdigit _ _ rfl hd
    | fraction hd =>
      rw [hfraction _ _ rfl] at hd
      cases hd
  · obtain ⟨d, body, hbody⟩ := hfirst ('.' :: fraction)
    have hcs' : c :: rest = sign ++ digits ++ '.' :: fraction ++ after := by simpa using hcs
    rw [hbody] at hcs'
    cases hcs'
    refine ⟨body, rfl, spells_fraction hsign hdigits hfraction hbody.symm hn, ?_⟩
    rw [number?_of_mem (by simp)] at hn
    obtain ⟨x, -, rfl⟩ := Option.map_eq_some_iff.1 hn
    intro hgoes
    cases hgoes with
    | digit hd => exact hdigit _ _ rfl hd

end Numbers

section Words

variable {c : Char} {name : List Char}

/-- A text that begins like a name begins with a word. -/
theorem next_word (hc : isNameStart c = true) (rest : List Char) :
    next c rest = .ok (.word (String.ofList (splitWord c rest).1), (splitWord c rest).2) := by
  have hquotes : ¬ (c = '"' ∨ c = '\'') := by
    rintro (h | h)
    · exact ne_of_isNameStart hc (by decide) h
    · exact ne_of_isNameStart hc (by decide) h
  rw [next, if_neg hquotes, splitNumber?_name hc, if_pos hc]

/-- A word ends where neither a word character nor a dash nor a question mark follows. -/
theorem splitWord_append (hname : ∀ d ∈ name, isNameRest d = true) {more : List Char}
    (hmore : ∀ d ∈ more.head?, isNameRest d = false ∧ d ≠ '?') :
    splitWord c (name ++ more) = (c :: name, more) := by
  obtain ⟨htake, hdrop⟩ := takeWhile_dropWhile_append hname fun d hd => (hmore d hd).1
  unfold splitWord
  rw [htake, hdrop]
  dsimp only
  split
  · exact absurd rfl (hmore '?' rfl).2
  · rfl

/-- A word ends behind its question mark. -/
theorem splitWord_question (hname : ∀ d ∈ name, isNameRest d = true) (more : List Char) :
    splitWord c (name ++ '?' :: more) = (c :: name ++ ['?'], more) := by
  have hstop : ∀ d ∈ ('?' :: more).head?, isNameRest d = false := by
    rintro _ ⟨⟩
    decide +kernel
  obtain ⟨htake, hdrop⟩ := takeWhile_dropWhile_append hname hstop
  unfold splitWord
  rw [htake, hdrop]
  rfl

/-- The two forms of a word. -/
theorem splitWord_cases (c : Char) (rest : List Char) : ∃ name,
    (∀ d ∈ name, isNameRest d = true) ∧
      ((∃ after, splitWord c rest = (c :: name, after) ∧ rest = name ++ after ∧
        ∀ d ∈ after.head?, isNameRest d = false ∧ d ≠ '?') ∨
      ∃ after, splitWord c rest = (c :: (name ++ ['?']), after) ∧ rest = name ++ '?' :: after) := by
  have hrest := List.takeWhile_append_dropWhile (p := isNameRest) (l := rest)
  have hstops := head?_dropWhile isNameRest rest
  refine ⟨rest.takeWhile isNameRest, fun d hd => List.mem_takeWhile_imp hd, ?_⟩
  unfold splitWord
  dsimp only
  split
  · next after heq =>
    rw [heq] at hrest
    exact .inr ⟨after, rfl, hrest.symm⟩
  · next hquestion =>
    refine .inl ⟨_, rfl, hrest.symm, fun d hd => ⟨hstops d hd, ?_⟩⟩
    rintro rfl
    obtain ⟨more, hmore⟩ := List.head?_eq_some_iff.1 hd
    exact hquestion more hmore

/-- A word is spelled by its characters. -/
theorem spells_name (hc : isNameStart c = true) (hname : ∀ d ∈ name, isNameRest d = true) :
    Spells c name (.word (String.ofList (c :: name))) := by
  intro more hmore
  have hlast : (c :: name).getLast? ≠ some '?' := by
    intro h
    rcases List.mem_cons.1 (List.mem_of_getLast? h) with heq | hmem
    · exact ne_of_isNameStart hc (by decide) heq.symm
    · exact absurd (hname _ hmem) (by decide +kernel)
  rw [next_word hc, splitWord_append hname]
  intro d hd
  obtain ⟨more, rfl⟩ := List.head?_eq_some_iff.1 hd
  have hnot : ¬ (isNameRest d = true ∨ d = '?') :=
    fun h => hmore (.name (by rwa [String.toList_ofList]) h)
  simpa using hnot

/-- A word may end with a question mark. -/
theorem spells_question (hc : isNameStart c = true) (hname : ∀ d ∈ name, isNameRest d = true) :
    Spells c (name ++ ['?']) (.word (String.ofList (c :: (name ++ ['?'])))) := by
  intro more _
  rw [next_word hc, List.append_assoc, List.singleton_append, splitWord_question hname]
  rfl

/-- What is taken off as a word spells it, and the word ends there. -/
theorem exists_spelling_word (hc : isNameStart c = true) (rest : List Char) :
    ∃ body, rest = body ++ (splitWord c rest).2 ∧
      Spells c body (.word (String.ofList (splitWord c rest).1)) ∧
        ¬ (word (String.ofList (splitWord c rest).1)).GoesOn (splitWord c rest).2 := by
  obtain ⟨name, hname, ⟨after, hsplit, hrest, hstop⟩ | ⟨after, hsplit, hrest⟩⟩ :=
    splitWord_cases c rest
  · rw [hsplit]
    refine ⟨name, hrest, spells_name hc hname, ?_⟩
    intro hgoes
    cases hafter : after with
    | nil =>
      rw [hafter] at hgoes
      cases hgoes
    | cons d more =>
      rw [hafter] at hgoes
      have hd := hstop d (by rw [hafter]; rfl)
      cases hgoes with
      | name _ h => simp [hd] at h
  · rw [hsplit]
    refine ⟨name ++ ['?'], by simpa using hrest, spells_question hc hname, ?_⟩
    intro hgoes
    cases hgoes with
    | name hw =>
      rw [String.toList_ofList, ← List.cons_append, List.getLast?_concat] at hw
      exact hw rfl

end Words

section Marks

variable {p q : Punct} {c : Char} {cs body more : List Char}

/-- Every mark is tried. -/
theorem mem_punctuation (p : Punct) : p ∈ punctuation := by
  cases p <;> decide

/-- The mark that is found is the longest one. -/
theorem length_le_of_findPunct? (h : findPunct? cs = some p) (hq : q.chars <+: cs) :
    q.chars.length ≤ p.chars.length := by
  have hsorted : punctuation.Pairwise fun p q => q.chars.length ≤ p.chars.length := by decide
  obtain ⟨-, before, after, hlist, hbefore⟩ := List.find?_eq_some_iff_append.1 h
  have hmem := mem_punctuation q
  rw [hlist] at hmem hsorted
  rcases List.mem_append.1 hmem with hmem | hmem
  · have hnot := hbefore q hmem
    rw [List.isPrefixOf_iff_prefix.2 hq] at hnot
    cases hnot
  · rcases List.mem_cons.1 hmem with rfl | hmem
    · exact Nat.le_refl _
    · exact (List.pairwise_cons.1 (List.pairwise_append.1 hsorted).2.1).1 q hmem

/-- A mark that is found stands in front of the text. -/
theorem prefix_of_findPunct? (h : findPunct? cs = some p) : p.chars <+: cs := by
  have hp := List.find?_some h
  exact List.isPrefixOf_iff_prefix.1 hp

/-- The mark that is found begins with the character at the place. -/
theorem exists_chars_of_findPunct? (h : findPunct? (c :: body) = some p) :
    ∃ text, p.chars = c :: text := by
  obtain ⟨after, hafter⟩ := prefix_of_findPunct? h
  cases hchars : p.chars with
  | nil => exact absurd hchars (by cases p <;> simp [Punct.chars])
  | cons d text =>
    rw [hchars] at hafter
    exact ⟨text, by rw [(List.cons.inj hafter).1]⟩

/-- A mark that begins with a mark has at most one more character. -/
theorem chars_eq_of_prefix (h : p.chars <+: q.chars) :
    p = q ∨ ∃ c, q.chars = p.chars ++ [c] := by
  revert h
  cases p <;> cases q <;> simp [Punct.chars]

/-- A mark that does not go on is found, and no longer one is. -/
theorem findPunct?_append (hmore : ¬ (punct p).GoesOn more) :
    findPunct? (p.chars ++ more) = some p := by
  have hp : p.chars <+: p.chars ++ more := List.prefix_append ..
  cases hfind : findPunct? (p.chars ++ more) with
  | none =>
    have hnot := List.find?_eq_none.1 hfind p (mem_punctuation p)
    exact absurd (List.isPrefixOf_iff_prefix.2 hp) hnot
  | some q =>
    have hq := prefix_of_findPunct? hfind
    have hprefix := List.prefix_of_prefix_length_le hp hq (length_le_of_findPunct? hfind hp)
    rcases chars_eq_of_prefix hprefix with rfl | ⟨d, hd⟩
    · rfl
    · rw [hd, List.prefix_append_right_inj] at hq
      obtain ⟨more, rfl⟩ := hq
      exact absurd (.mark hd) hmore

/-- A text that begins with a mark, and not like another lexeme, begins with this mark. -/
theorem next_mark (hc : c ∉ ['"', '\'', '-']) (hdigit : isDigit c = false)
    (hname : isNameStart c = false) (hfind : findPunct? (c :: body) = some p) :
    next c body = .ok (.punct p, body.drop (p.chars.length - 1)) := by
  simp only [List.mem_cons, List.not_mem_nil, or_false, not_or] at hc
  rw [next, if_neg (not_or.2 ⟨hc.1, hc.2.1⟩), splitNumber?_eq_none hc.2.2 hdigit]
  dsimp only
  rw [if_neg (by simp [hname]), hfind]

/-- A mark is spelled by its characters. -/
theorem spells_mark (h : p.chars = c :: body) : Spells c body (.punct p) := by
  intro more hmore
  have hfind := findPunct?_append hmore
  rw [h, List.cons_append] at hfind
  have hfirst : c ∉ ['"', '\'', '-'] ∧ isDigit c = false ∧ isNameStart c = false := by
    revert h
    cases p <;> rintro ⟨⟩ <;> decide +kernel
  rw [next_mark hfirst.1 hfirst.2.1 hfirst.2.2 hfind, h, List.length_cons, Nat.add_sub_cancel,
    List.drop_left]

/-- What is taken off as a mark spells it, and the mark ends there. -/
theorem exists_spelling_mark (h : findPunct? (c :: body) = some p) :
    ∃ text, body = text ++ body.drop (p.chars.length - 1) ∧ Spells c text (.punct p) ∧
      ¬ (punct p).GoesOn (body.drop (p.chars.length - 1)) := by
  obtain ⟨after, hafter⟩ := prefix_of_findPunct? h
  obtain ⟨text, htext⟩ := exists_chars_of_findPunct? h
  rw [htext, List.cons_append] at hafter
  obtain rfl := (List.cons.inj hafter).2
  have hdrop : (text ++ after).drop (p.chars.length - 1) = after := by
    rw [htext, List.length_cons, Nat.add_sub_cancel, List.drop_left]
  rw [hdrop]
  refine ⟨text, rfl, spells_mark htext, ?_⟩
  intro hgoes
  cases hgoes with
  | @mark _ q d more hq =>
    -- the longer mark would have been found
    have hprefix : q.chars <+: c :: (text ++ d :: more) := by
      rw [hq, htext]
      exact ⟨more, by simp⟩
    have hlonger := length_le_of_findPunct? h hprefix
    rw [hq, List.length_append, List.length_singleton] at hlonger
    omega

end Marks

/-- What is taken as a lexeme spells it, and the lexeme does not go on with what is left over. -/
theorem exists_spelling {c : Char} {rest after : List Char} {l : Lexeme}
    (h : next c rest = .ok (l, after)) :
    ∃ body, rest = body ++ after ∧ Spells c body l ∧ ¬ l.GoesOn after := by
  unfold next at h
  split at h
  · next hquote =>
    split at h
    · cases h
    · next d after' heq =>
      cases h
      have hsplit := List.takeWhile_append_dropWhile (p := (· != c)) (l := rest)
      have hd : d = c := by simpa using head?_dropWhile (· != c) rest d (by rw [heq]; rfl)
      rw [heq, hd] at hsplit
      refine ⟨rest.takeWhile (· != c) ++ [c], by simpa using hsplit.symm,
        spells_string hquote ?_, nofun⟩
      intro hmem
      simpa using List.mem_takeWhile_imp hmem
  · split at h
    · next text after' hsplit =>
      split at h
      · next n hn =>
        cases h
        exact exists_spelling_number hsplit hn
      · cases h
    · split at h
      · next hstart =>
        cases h
        exact exists_spelling_word hstart rest
      · split at h
        · next p hfind =>
          cases h
          exact exists_spelling_mark hfind
        · cases h

/-- A lexeme begins with no blank. -/
theorem not_isBlank_of_next {c : Char} {rest after : List Char} {l : Lexeme}
    (h : next c rest = .ok (l, after)) : isBlank c = false := by
  by_contra hblank
  have hc : isBlank c = true := by simpa using hblank
  have hne {d : Char} (hd : isBlank d = false) : c ≠ d := by
    rintro rfl
    exact hblank hd
  have hquotes : ¬ (c = '"' ∨ c = '\'') :=
    not_or.2 ⟨hne (by decide), hne (by decide)⟩
  have hname : ¬ isNameStart c = true := fun h => hblank (not_isBlank_of_isNameStart h)
  unfold next at h
  rw [if_neg hquotes, splitNumber?_eq_none (hne (by decide)) (not_isDigit_of_isBlank hc)] at h
  dsimp only at h
  rw [if_neg hname] at h
  split at h
  · next p hfind =>
    obtain ⟨text, htext⟩ := exists_chars_of_findPunct? hfind
    exact hne (p.not_isBlank_of_mem (by simp [htext])) rfl
  · cases h

/-- No lexeme goes on with white space. -/
theorem not_goesOn_blank {l : Lexeme} {b : Char} (hb : isBlank b = true) (more : List Char) :
    ¬ l.GoesOn (b :: more) := by
  have hne {d : Char} (hd : isBlank d = false) : b ≠ d := by
    rintro rfl
    rw [hd] at hb
    cases hb
  intro h
  cases h with
  | digit h =>
    rw [not_isDigit_of_isBlank hb] at h
    cases h
  | fraction => exact hne (by decide) rfl
  | name _ h =>
    rcases h with h | h
    · rw [not_isNameRest_of_isBlank hb] at h
      cases h
    · exact hne (by decide) h
  | @mark p q _ _ h =>
    exact hne (q.not_isBlank_of_mem (by simp [h])) rfl

/-- A lexeme that ends does not go on across white space. -/
theorem not_goesOn_append_blank {l : Lexeme} {after : List Char} (h : ¬ l.GoesOn after) {b : Char}
    (hb : isBlank b = true) (more : List Char) : ¬ l.GoesOn (after ++ b :: more) := by
  match after, h with
  | [], _ => exact not_goesOn_blank hb more
  | [d], h =>
    intro hgoes
    cases hgoes with
    | digit hd => exact h (.digit hd)
    | fraction hd =>
      rw [not_isDigit_of_isBlank hb] at hd
      cases hd
    | name hw hd => exact h (.name hw hd)
    | mark hd => exact h (.mark hd)
  | d :: d' :: tail, h =>
    intro hgoes
    cases hgoes with
    | digit hd => exact h (.digit hd)
    | fraction hd => exact h (.fraction hd)
    | name hw hd => exact h (.name hw hd)
    | mark hd => exact h (.mark hd)

/-! ## Lexemes of joined texts -/

section Cutting

variable {c b : Char} {cs rest after more : List Char} {l : Lexeme} {ls : List Lexeme}

/-- White space has no lexemes. -/
theorem lex_of_trimStart_nil (h : trimStart cs = []) : lex cs = .ok [] := by
  rw [lex]
  split
  · rfl
  · next heq =>
    rw [h] at heq
    cases heq

/-- The lexemes of a text are its first one and those of what follows it. -/
theorem lex_of_next (hcs : trimStart cs = c :: rest) (h : next c rest = .ok (l, after)) :
    lex cs = (lex after).map (l :: ·) := by
  rw [lex]
  split
  · next heq =>
    rw [hcs] at heq
    cases heq
  · next heq =>
    rw [hcs] at heq
    cases heq
    split
    · next heq => cases h.symm.trans heq
    · next heq =>
      cases h.symm.trans heq
      cases lex after <;> rfl

/-- A text that begins with no lexeme is not cut. -/
theorem lex_of_next_error {e : ExprFault} (hcs : trimStart cs = c :: rest)
    (h : next c rest = .error e) : lex cs = .error e := by
  rw [lex]
  split
  · next heq =>
    rw [hcs] at heq
    cases heq
  · next heq =>
    rw [hcs] at heq
    cases heq
    split
    · next heq =>
      cases h.symm.trans heq
      rfl
    · next heq => cases h.symm.trans heq

/-- The lexemes of a text that has some begin with the first one. -/
theorem exists_of_lex_ok (hcs : trimStart cs = c :: rest) (h : lex cs = .ok ls) :
    ∃ l after ls', next c rest = .ok (l, after) ∧ lex after = .ok ls' ∧ ls = l :: ls' := by
  cases hnext : next c rest with
  | error e =>
    rw [lex_of_next_error hcs hnext] at h
    cases h
  | ok result =>
    obtain ⟨l, after⟩ := result
    rw [lex_of_next hcs hnext] at h
    obtain ⟨ls', hafter, rfl⟩ := exists_ok_of_map_eq_ok h
    exact ⟨l, after, ls', rfl, hafter, rfl⟩

/-- Leading white space does not matter. -/
theorem lex_congr {cs' : List Char} (h : trimStart cs = trimStart cs') : lex cs = lex cs' := by
  cases hcs : trimStart cs with
  | nil => rw [lex_of_trimStart_nil hcs, lex_of_trimStart_nil (h.symm.trans hcs)]
  | cons c rest =>
    cases hnext : next c rest with
    | error e => rw [lex_of_next_error hcs hnext, lex_of_next_error (h.symm.trans hcs) hnext]
    | ok result => rw [lex_of_next hcs hnext, lex_of_next (h.symm.trans hcs) hnext]

/-- White space in front of a text is taken off. -/
theorem trimStart_append_of_nil (h : trimStart cs = []) (more : List Char) :
    trimStart (cs ++ more) = trimStart more :=
  List.dropWhile_append_of_pos (List.dropWhile_eq_nil_iff.1 h)

/-- White space in front of a visible character is taken off, whatever follows. -/
theorem trimStart_append_of_cons (h : trimStart cs = c :: rest) (more : List Char) :
    trimStart (cs ++ more) = c :: (rest ++ more) := by
  have hsplit := List.takeWhile_append_dropWhile (p := isBlank) (l := cs)
  have hc : isBlank c = false := head?_dropWhile isBlank cs c (by rw [← trimStart, h]; rfl)
  rw [← trimStart, h] at hsplit
  have hblanks : ∀ a ∈ cs.takeWhile isBlank, isBlank a = true :=
    fun a ha => List.mem_takeWhile_imp ha
  rw [trimStart, ← hsplit, List.append_assoc, List.dropWhile_append_of_pos hblanks,
    List.cons_append, List.dropWhile_cons, hc]
  rfl

/-- A lexeme does not begin with white space. -/
theorem trimStart_of_next (h : next c rest = .ok (l, after)) :
    trimStart (c :: rest) = c :: rest := by
  rw [trimStart, List.dropWhile_cons, not_isBlank_of_next h]
  rfl

/-- A text in front of another one is cut into some lexemes. -/
def Cut (cs : List Char) (ls : List Lexeme) (more : List Char) : Prop :=
  lex (cs ++ more) = (lex more).map (ls ++ ·)

/-- What is cut off in front of nothing is the whole text. -/
theorem Cut.lex (h : Cut cs ls []) : lex cs = .ok ls := by
  have hnil : Lexeme.lex [] = .ok [] := lex_of_trimStart_nil rfl
  rw [Cut, hnil, List.append_nil] at h
  rw [h]
  show Except.ok (ls ++ []) = _
  rw [List.append_nil]

/-- No lexemes are cut off as no text. -/
theorem Cut.nil (more : List Char) : Cut [] [] more := by
  rw [Cut, List.nil_append]
  cases Lexeme.lex more <;> rfl

/-- Adjacent texts have their lexemes together. -/
theorem Cut.append {cs' : List Char} {ls' : List Lexeme} (h : Cut cs ls (cs' ++ more))
    (h' : Cut cs' ls' more) : Cut (cs ++ cs') (ls ++ ls') more := by
  rw [Cut, List.append_assoc, h, h']
  cases Lexeme.lex more with
  | error e => rfl
  | ok rest =>
    show Except.ok (ls ++ (ls' ++ rest)) = Except.ok (ls ++ ls' ++ rest)
    rw [List.append_assoc]

/-- What spells a lexeme is cut off where the lexeme does not go on. -/
theorem cut_of_spells {body : List Char} (h : Spells c body l) (hmore : ¬ l.GoesOn more) :
    Cut (c :: body) [l] more := by
  have hnext := h more hmore
  rw [Cut, List.cons_append, lex_of_next (trimStart_of_next hnext) hnext]
  rfl

/-- The lexemes of a text are kept in front of a blank. -/
theorem cut_of_lex (h : lex cs = .ok ls) (hb : isBlank b = true) : Cut cs ls (b :: more) := by
  fun_induction lex cs generalizing ls with
  | case1 cs hcs =>
    cases h
    rw [Cut, lex_congr (trimStart_append_of_nil hcs _)]
    exact Cut.nil (b :: more)
  | case2 | case3 => cases h
  | case4 cs c rest hcs l after hnext ls' hafter ih =>
    cases h
    obtain ⟨body, rfl, hspells, hends⟩ := exists_spelling hnext
    have hnext' := hspells (after ++ b :: more) (not_goesOn_append_blank hends hb more)
    rw [← List.append_assoc] at hnext'
    rw [Cut, lex_of_next (trimStart_append_of_cons hcs _) hnext', ih hafter]
    cases Lexeme.lex (b :: more) <;> rfl

end Cutting

end Lexeme

end Stencil
