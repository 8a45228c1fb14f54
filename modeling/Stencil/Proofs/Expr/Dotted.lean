import Mathlib.Data.List.Chain
import Stencil.Proofs.Expr.Printing

/-!
# Keys behind dots

A path takes words and numerals as keys behind its dots, but two numerals in a row are no keys: with
the dot between them they are the text of one number, which has a fraction and is no key.  So words
and numerals with dots between them are a path just if no two numerals are side by side
(`Operand.read_dotted`).
-/

set_option autoImplicit false

namespace Stencil

/-- The path that begins with a variable and goes on with keys. -/
def Path.dotted (head : String) (keys : List String) : Path :=
  keys.foldl .field (.var head)

/-- No two numerals are side by side. -/
def NumeralsApart (keys : List String) : Prop :=
  keys.IsChain fun a b => ¬ (IsNumeral a ∧ IsNumeral b)

namespace Path

/-- Each key that is appended to a path is a segment of its own. -/
theorem segments_foldl (keys : List String) (p : Path) :
    (keys.foldl .field p).segments = p.segments ++ keys.map .key := by
  induction keys generalizing p with
  | nil => exact (List.append_nil _).symm
  | cons k keys ih => rw [List.foldl_cons, ih, segments, List.append_assoc]; rfl

/-- The segments of a dotted path are its keys. -/
theorem segments_dotted (head : String) (keys : List String) :
    (dotted head keys).segments = (head :: keys).map .key :=
  segments_foldl keys (.var head)

/-- Each key that is appended to a path stands behind a dot. -/
theorem text_foldl (keys : List String) (p : Path) :
    (keys.foldl .field p).text = ".".intercalate (p.text :: keys) := by
  induction keys generalizing p with
  | nil => rw [String.intercalate_singleton]; rfl
  | cons k keys ih =>
    have htext : (field p k).text = p.text ++ "." ++ k := by rw [text]
    rw [List.foldl_cons, ih, htext]
    cases keys with
    | nil => simp [String.intercalate_cons_cons]
    | cons k' keys => simp [String.intercalate_cons_cons, String.append_assoc]

/-- The text of a dotted path are its keys with dots between them. -/
theorem text_dotted (head : String) (keys : List String) :
    (dotted head keys).text = ".".intercalate (head :: keys) := by
  rw [dotted, text_foldl, text]

/-- Keys that are appended leave a path plain if no two numerals come together. -/
theorem isPlain_foldl {keys : List String} (hkeys : ∀ k ∈ keys, IsWord k ∨ IsNumeral k)
    (hapart : NumeralsApart keys) {p : Path} (hp : p.IsPlain)
    (hlast : p.EndsInNumeral → ∀ k ∈ keys.head?, ¬ IsNumeral k) :
    (keys.foldl .field p).IsPlain := by
  induction keys generalizing p with
  | nil => exact hp
  | cons k keys ih =>
    obtain ⟨hfirst, hrest⟩ := List.isChain_cons.1 hapart
    refine ih (fun k' hk' => hkeys k' (List.mem_cons_of_mem _ hk')) hrest ⟨hp, ?_⟩ ?_
    · rcases hkeys k (List.mem_cons_self ..) with hk | hk
      · exact .inl hk
      · exact .inr ⟨hk, fun hnumeral => hlast hnumeral k rfl hk⟩
    · exact fun hk k' hk' hnumeral => hfirst k' hk' ⟨hk, hnumeral⟩

variable {head : String} {keys : List String}

/-- A dotted path is plain if no two numerals come together in it. -/
theorem isPlain_dotted (hhead : IsWord head) (hliteral : head ∉ literalWords)
    (hkeys : ∀ k ∈ keys, IsWord k ∨ IsNumeral k) (hapart : NumeralsApart keys) :
    (dotted head keys).IsPlain :=
  isPlain_foldl hkeys hapart ⟨hhead, hliteral⟩ nofun

end Path

/-! ## Two numerals in a row -/

/-- In front of a numeral that is apart from others stands none. -/
theorem Path.not_endsInNumeral_dotted (head : String) {before : List String} {a : String}
    (hapart : NumeralsApart (before ++ [a])) (ha : IsNumeral a) :
    ¬ (dotted head before).EndsInNumeral := by
  rcases List.eq_nil_or_concat' before with rfl | ⟨init, k, rfl⟩
  · exact not_false
  · intro hlast
    rw [dotted, List.foldl_append] at hlast
    exact (List.isChain_append.1 hapart).2.2 k (by simp) a rfl ⟨hlast, ha⟩

/-- No number with a fraction stands behind a dot. -/
def NoFractionKey (l l' : Lexeme) : Prop :=
  l = .punct .dot → ∀ x, l' ≠ .number (.float x)

mutual

/-- No derivation has a number with a fraction behind a dot. -/
theorem OperandTree.isChain_lexemes (t : OperandTree) : t.lexemes.IsChain NoFractionKey := by
  cases t with
  | range first last =>
    have hfirst := first.isChain_lexemes
    have hlast := last.isChain_lexemes
    simp [OperandTree.lexemes, List.isChain_cons, List.isChain_append, NoFractionKey, *]
  | named w h suffix =>
    have hsuffix := suffix.isChain_lexemes
    simp [OperandTree.lexemes, List.isChain_cons, NoFractionKey, *]
  | lookup key suffix =>
    have hkey := key.isChain_lexemes
    have hsuffix := suffix.isChain_lexemes
    simp [OperandTree.lexemes, List.isChain_cons, List.isChain_append, NoFractionKey, *]
  | _ => exact .singleton _

/-- In the steps behind a path, no dot is followed by a number with a fraction. -/
theorem SuffixTree.isChain_lexemes (t : SuffixTree) : t.lexemes.IsChain NoFractionKey := by
  cases t with
  | stop => exact .nil
  | field w more =>
    have hmore := more.isChain_lexemes
    simp [SuffixTree.lexemes, List.isChain_cons, NoFractionKey, *]
  | place n h more =>
    have hmore := more.isChain_lexemes
    simp [SuffixTree.lexemes, List.isChain_cons, NoFractionKey, *]
  | item key more =>
    have hkey := key.isChain_lexemes
    have hmore := more.isChain_lexemes
    simp [SuffixTree.lexemes, List.isChain_cons, List.isChain_append, NoFractionKey, *]

end

/-- A list that is no chain has a first pair of neighbours that break it. -/
theorem exists_of_not_isChain {α : Type} {R : α → α → Prop} {l : List α} (h : ¬ l.IsChain R) :
    ∃ before a b after, l = before ++ a :: b :: after ∧ (before ++ [a]).IsChain R ∧ ¬ R a b := by
  induction l with
  | nil => exact absurd .nil h
  | cons a l ih =>
    cases l with
    | nil => exact absurd (.singleton a) h
    | cons b l =>
      by_cases hab : R a b
      · have htail : ¬ (b :: l).IsChain R := fun hl => h (List.isChain_cons_cons.2 ⟨hab, hl⟩)
        obtain ⟨before, a', b', after, heq, hchain, hbreak⟩ := ih htail
        refine ⟨a :: before, a', b', after, by rw [heq]; rfl, hchain.cons ?_, hbreak⟩
        have hhead : (before ++ [a']).head? = some b := by
          cases before with
          | nil => rw [(List.cons.inj heq).1]; rfl
          | cons c before => rw [(List.cons.inj heq).1]; rfl
        rw [hhead]
        rintro _ ⟨⟩
        exact hab
      · exact ⟨[], a, b, l, rfl, .singleton a, hab⟩

open Lexeme

/-- Two numerals with a dot between them are lexed to one number, which has a fraction, if they are
lexed at all. -/
theorem Lexeme.exists_of_lex_fraction {whole fraction more : List Char} {ls : List Lexeme}
    (hwhole : IsDigits whole) (hfraction : IsDigits fraction)
    (hmore : ∀ d ∈ more.head?, Text.isDigit d = false)
    (h : lex (whole ++ '.' :: (fraction ++ more)) = .ok ls) :
    ∃ x rest, ls = number (.float x) :: rest := by
  obtain ⟨c, digits, rfl⟩ := List.exists_cons_of_ne_nil hwhole.1
  have hsplit := splitNumber?_append (.inl rfl)
    (hwhole.head?_ne (d := '-') (by decide) ('.' :: (fraction ++ more)))
  rw [splitUnsigned?_fraction hwhole hfraction hmore, List.nil_append, List.cons_append] at hsplit
  have hblank : Text.isBlank c = false := by
    by_contra hblank
    have hc := Text.not_isDigit_of_isBlank (by simpa using hblank)
    rw [hwhole.2 c (List.mem_cons_self ..)] at hc
    cases hc
  have hcs : Text.trimStart (c :: (digits ++ '.' :: (fraction ++ more))) =
      c :: (digits ++ '.' :: (fraction ++ more)) := by
    rw [Text.trimStart, List.dropWhile_cons, hblank]
    rfl
  rw [List.cons_append] at h
  obtain ⟨l, after, rest, hnext, -, rfl⟩ := exists_of_lex_ok hcs h
  rw [next, if_neg (not_quote_of_splitNumber? hsplit), hsplit] at hnext
  dsimp only at hnext
  split at hnext
  · next n hn =>
    cases hnext
    rw [number?_of_mem (by simp)] at hn
    obtain ⟨x, -, rfl⟩ := Option.map_eq_some_iff.1 hn
    exact ⟨x, rest, rfl⟩
  · cases hnext

namespace Path

/-- The texts of further keys begin with a dot. -/
theorem exists_toList_text_foldl (keys : List String) (p : Path) :
    ∃ more, (keys.foldl .field p).text.toList = p.text.toList ++ more ∧
      ∀ d ∈ more.head?, Text.isDigit d = false := by
  induction keys generalizing p with
  | nil => exact ⟨[], (List.append_nil _).symm, nofun⟩
  | cons k keys ih =>
    obtain ⟨more, htext, -⟩ := ih (.field p k)
    refine ⟨'.' :: (k.toList ++ more), ?_, ?_⟩
    · rw [List.foldl_cons, htext, toList_text_field]
      simp
    · rintro _ ⟨⟩
      decide

end Path

/-- A path is not read behind which two numerals stand in a row. -/
theorem Operand.read_ne_ok_of_numerals {p : Path} (hp : p.Spelled) (hlast : ¬ p.EndsInNumeral)
    {a b : String} (ha : IsNumeral a) (hb : IsNumeral b) (after : List String) (o : Operand) :
    Operand.read (.path ((a :: b :: after).foldl .field p) : Operand).text ≠ .ok o := by
  intro hread
  obtain ⟨more, htext, hmore⟩ := Path.exists_toList_text_foldl after (.field (.field p a) b)
  obtain ⟨ls, -, hcut⟩ := hp
  have hsource : (Operand.path ((a :: b :: after).foldl .field p)).text.toList =
      p.text.toList ++ (['.'] ++ (a.toList ++ '.' :: (b.toList ++ more))) := by
    rw [Operand.text, List.foldl_cons, List.foldl_cons, htext, Path.toList_text_field,
      Path.toList_text_field]
    simp
  obtain ⟨t, hlex, -⟩ := Operand.read_eq_ok_iff.1 hread
  -- the lexemes of the path, the dot, and the number
  have hdot : Cut ['.'] [punct .dot] (a.toList ++ '.' :: (b.toList ++ more)) :=
    cut_dot (ha.isDigits.head?_ne (by decide) _)
  have hbefore := (hcut _ (Path.ends_dot hlast _)).append hdot
  rw [hsource, ← List.append_assoc, hbefore] at hlex
  obtain ⟨rest, hrest, hlexemes⟩ := exists_ok_of_map_eq_ok hlex
  obtain ⟨x, rest, rfl⟩ := exists_of_lex_fraction ha.isDigits hb.isDigits hmore hrest
  have hchain := t.isChain_lexemes
  rw [← hlexemes, List.append_assoc] at hchain
  have hpair := (List.isChain_cons_cons.1 hchain.right_of_append).1
  exact hpair rfl x rfl

/-- A word and further words and numerals with dots between them are read as a path just if no two
numerals are side by side, and then as the path of these keys. -/
theorem Operand.read_dotted {head : String} {keys : List String} (hhead : IsWord head)
    (hliteral : head ∉ literalWords) (hkeys : ∀ k ∈ keys, IsWord k ∨ IsNumeral k) :
    (Path.dotted head keys).segments = (head :: keys).map .key ∧
      ∀ o, Operand.read (".".intercalate (head :: keys)) = .ok o ↔
        NumeralsApart keys ∧ o = .path (Path.dotted head keys) := by
  refine ⟨Path.segments_dotted head keys, fun o => ?_⟩
  have htext : (Operand.path (Path.dotted head keys)).text = ".".intercalate (head :: keys) := by
    rw [Operand.text, Path.text_dotted]
  by_cases hapart : NumeralsApart keys
  · have hplain := Path.isPlain_dotted hhead hliteral hkeys hapart
    have hread := (Operand.spelled_path hplain.spelled).read
    rw [← htext, hread, Except.ok.injEq, and_iff_right hapart, eq_comm]
  · refine iff_of_false ?_ fun h => hapart h.1
    obtain ⟨before, a, b, after, rfl, hbefore, hnumerals⟩ := exists_of_not_isChain hapart
    obtain ⟨ha, hb⟩ := not_not.1 hnumerals
    have hbase : (Path.dotted head before).IsPlain :=
      Path.isPlain_dotted hhead hliteral
        (fun k hk => hkeys k (List.mem_append_left _ hk)) hbefore.left_of_append
    have hlast := Path.not_endsInNumeral_dotted head hbefore ha
    rw [← htext, Path.dotted, List.foldl_append]
    exact Operand.read_ne_ok_of_numerals hbase.spelled hlast ha hb after o

/-- A word is no numeral. -/
theorem IsWord.not_isNumeral {w : String} (h : IsWord w) : ¬ IsNumeral w := by
  intro hnumeral
  obtain ⟨c, hc, hhead⟩ := h.exists_head? []
  exact hnumeral.isDigits.head?_ne (Text.not_isDigit_of_isNameStart hc) [] hhead

/-- A letter is a word. -/
theorem isWord_a : IsWord "a" :=
  ⟨'a', [], by decide, nofun, .inl rfl⟩

/-- Zero is a numeral. -/
theorem isNumeral_zero : IsNumeral "0" :=
  ⟨0, by decide, rfl⟩

/-- Five is a numeral. -/
theorem isNumeral_five : IsNumeral "5" :=
  ⟨5, by decide, rfl⟩

/-- Numerals and words may come in turn. -/
theorem read_dotted_places :
    Operand.read "a.0.b?.5" = .ok (.path (Path.dotted "a" ["0", "b?", "5"])) := by
  have hword : IsWord "b?" := ⟨'b', [], by decide, nofun, .inr rfl⟩
  have hkeys : ∀ k ∈ ["0", "b?", "5"], IsWord k ∨ IsNumeral k := by
    simp [hword, isNumeral_zero, isNumeral_five]
  have hapart : NumeralsApart ["0", "b?", "5"] := by
    simp [NumeralsApart, hword.not_isNumeral]
  have hdotted := Operand.read_dotted isWord_a (by decide) hkeys
  exact (hdotted.2 _).2 ⟨hapart, rfl⟩

/-- The dot between two places in nested lists makes one number of them. -/
theorem nestedPlaces_not_read :
    IsWord "a" ∧ "a" ∉ literalWords ∧ (∀ k ∈ ["0", "5"], IsWord k ∨ IsNumeral k) ∧
      ∀ o, Operand.read (".".intercalate ["a", "0", "5"]) ≠ .ok o := by
  refine ⟨isWord_a, by decide, by simp [isNumeral_zero, isNumeral_five], fun o => ?_⟩
  have hspelled : (Path.var "a").Spelled := Path.spelled_var isWord_a (by decide)
  exact Operand.read_ne_ok_of_numerals hspelled not_false isNumeral_zero isNumeral_five [] o

end Stencil
