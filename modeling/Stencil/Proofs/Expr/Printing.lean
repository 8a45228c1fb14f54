import Stencil.Proofs.Expr.Descent
import Stencil.Proofs.Expr.Spelling
import Stencil.Proofs.Number.Digits

/-!
# Operands as text

The text of an operand is read as that operand (`Operand.read_text`), if the text can show all of
it: lists, objects and floating point numbers are no literals, a string literal has no escapes, the
keys of a path are words or numerals, and no two numerals stand side by side, as the dot between
them would make one number of them.  The texts of the parts of an operand stand side by side without
blanks, so a part keeps its lexemes only in front of what its last lexeme does not go on with.
-/

set_option autoImplicit false

namespace Stencil

/-- A word of expressions: a letter of the basic alphabet or a low line, then word characters and
dashes, then at most one question mark. -/
def IsWord (w : String) : Prop :=
  ∃ c name, Text.isNameStart c = true ∧ (∀ d ∈ name, Text.isNameRest d = true) ∧
    (w.toList = c :: name ∨ w.toList = c :: (name ++ ['?']))

/-- The shortest decimal numeral of a signed 64-bit integer that is not negative. -/
def IsNumeral (key : String) : Prop :=
  ∃ n : Nat, Number.isSigned64 n = true ∧ key = Decimal.natText n

/-- A literal shows the whole value. -/
def Value.IsPlain : Value → Prop
  | .null => True
  | .bool _ => True
  | .number (.int n) => Number.isSigned64 n = true
  | .string s => ∀ c ∈ s.toList, c ≠ '"' ∧ c ≠ '\\' ∧ ¬ c < ' '
  | _ => False

/-- The last step of a path is a numeral as a key. -/
def Path.EndsInNumeral : Path → Prop
  | .field _ key => IsNumeral key
  | _ => False

mutual

/-- The text of an operand shows the whole operand. -/
def Operand.IsPlain : Operand → Prop
  | .literal value => value.IsPlain
  | .range first last => first.IsPlain ∧ last.IsPlain
  | .path path => path.IsPlain

/-- The text of a path shows the whole path. -/
def Path.IsPlain : Path → Prop
  | .var name => IsWord name ∧ name ∉ literalWords
  | .lookup name => name.IsPlain
  | .field base key => base.IsPlain ∧ (IsWord key ∨ IsNumeral key ∧ ¬ base.EndsInNumeral)
  | .item base key => base.IsPlain ∧ key.IsPlain

end

/-! ## Texts of single lexemes -/

namespace Lexeme

variable {more : List Char}

/-- A word is cut off where it does not go on. -/
theorem cut_word {w : String} (h : IsWord w) (hmore : ¬ (word w).GoesOn more) :
    Cut w.toList [word w] more := by
  obtain ⟨c, name, hc, hname, hw | hw⟩ := h
  · obtain rfl : w = String.ofList (c :: name) := by rw [← hw, String.ofList_toList]
    rw [hw]
    exact cut_of_spells (spells_name hc hname) hmore
  · obtain rfl : w = String.ofList (c :: (name ++ ['?'])) := by rw [← hw, String.ofList_toList]
    rw [hw]
    exact cut_of_spells (spells_question hc hname) hmore

/-- The decimal digits of a number are digits, and at least one. -/
theorem isDigits_toDigits (n : Nat) : IsDigits (Nat.toDigits 10 n) :=
  ⟨Nat.toDigits_ne_nil, fun _ hd =>
    Text.isDigit_of_isDecimalDigit (Decimal.isDecimalDigit_of_mem hd)⟩

/-- The text of an integer of 64 bits is cut off where it does not go on. -/
theorem cut_integer {i : Int} (h : Number.isSigned64 i = true)
    (hmore : ¬ (number (.int i)).GoesOn more) :
    Cut (Decimal.intText i).toList [number (.int i)] more := by
  obtain ⟨sign, n, hsign, htext⟩ := Decimal.exists_toList_intText i
  have hdigits := isDigits_toDigits n
  have hnumber : number? (sign ++ Nat.toDigits 10 n) = some (.int i) := by
    rw [number?_of_not_mem (not_mem_signed hsign hdigits (by decide) (by decide)), ← htext,
      Number.readSigned64?_intText h]
    rfl
  obtain ⟨c, body, hbody⟩ : ∃ c body, sign ++ Nat.toDigits 10 n = c :: body :=
    List.exists_cons_of_ne_nil (by simp [Nat.toDigits_ne_nil])
  rw [htext, hbody]
  exact cut_of_spells (spells_digits hsign hdigits hbody.symm hnumber) hmore

/-- The text of a natural number is cut off where it does not go on. -/
theorem cut_numeral {n : Nat} (h : Number.isSigned64 n = true)
    (hmore : ¬ (number (.int n)).GoesOn more) :
    Cut (Decimal.natText n).toList [number (.int n)] more := by
  rw [← Decimal.intText_natCast]
  exact cut_integer h hmore

/-- A mark is cut off where it does not go on. -/
theorem cut_mark {p : Punct} (hmore : ¬ (punct p).GoesOn more) : Cut p.chars [punct p] more := by
  cases hp : p.chars with
  | nil => exact absurd hp (by cases p <;> simp [Punct.chars])
  | cons c body => exact cut_of_spells (spells_mark hp) hmore

/-- The JSON text of a string without escapes is a literal of expressions. -/
theorem cut_jsonString {s : String} (h : (Value.string s).IsPlain) (more : List Char) :
    Cut (Json.string s).toList [string s] more := by
  have hescape : s.toList.flatMap Json.escape = s.toList := by
    have hchar : ∀ c ∈ s.toList, Json.escape c = [c] := by
      intro c hc
      obtain ⟨hquote, hslash, hcontrol⟩ := h c hc
      have hne {d : Char} (hd : d < ' ') : c ≠ d := by
        rintro rfl
        exact hcontrol hd
      rw [Json.escape, if_neg (by simp [hquote, hslash]), if_neg (hne (by decide)),
        if_neg (hne (by decide)), if_neg (hne (by decide)), if_neg (hne (by decide)),
        if_neg (hne (by decide)), if_neg hcontrol]
    rw [List.flatMap_congr hchar, List.flatMap_singleton']
  have hquote : '"' ∉ s.toList := fun hmem => (h _ hmem).1 rfl
  rw [Json.string, String.toList_ofList, hescape, List.cons_append]
  have hspells := spells_string (.inl rfl) hquote
  rw [String.ofList_toList] at hspells
  exact cut_of_spells hspells nofun

/-- Only these three marks begin longer ones. -/
theorem not_goesOn_mark {p : Punct} (hp : p ∉ [.dot, .less, .greater]) :
    ¬ (punct p).GoesOn more := by
  intro h
  cases h with
  | @mark _ q _ _ h =>
    revert hp h
    cases p <;> cases q <;> simp [Punct.chars]

/-- A mark that begins no longer one is cut off anywhere. -/
theorem cut_single (p : Punct) (hp : p ∉ [.dot, .less, .greater]) (more : List Char) :
    Cut p.chars [punct p] more :=
  cut_mark (not_goesOn_mark hp)

/-- Only another dot makes a dot the mark of a range. -/
theorem cut_dot (hmore : more.head? ≠ some '.') : Cut ['.'] [punct .dot] more := by
  refine cut_mark (p := .dot) fun h => ?_
  cases h with
  | @mark _ q c _ h =>
    have hc : c ≠ '.' := by simpa using hmore
    cases q <;> simp [Punct.chars, hc.symm] at h

/-- A word does not go on into a dot. -/
theorem not_word_goesOn_dot (w : String) (more : List Char) : ¬ (word w).GoesOn ('.' :: more) := by
  intro h
  cases h with
  | name _ h => exact absurd h (by decide +kernel)

/-- A number does not go on into a dot without a digit behind it. -/
theorem not_number_goesOn_dot (n : Number) (hmore : ∀ d ∈ more.head?, Text.isDigit d = false) :
    ¬ (number n).GoesOn ('.' :: more) := by
  intro h
  cases h with
  | digit h => exact absurd h (by decide)
  | fraction h =>
    rw [hmore _ rfl] at h
    cases h

end Lexeme

/-- A word begins with the first character of a name. -/
theorem IsWord.exists_head? {w : String} (h : IsWord w) (more : List Char) :
    ∃ c, Text.isNameStart c = true ∧ (w.toList ++ more).head? = some c := by
  obtain ⟨c, name, hc, -, hw | hw⟩ := h <;> exact ⟨c, hc, by rw [hw]; rfl⟩

/-- A word does not begin with a dot. -/
theorem IsWord.head?_ne_dot {w : String} (h : IsWord w) (more : List Char) :
    (w.toList ++ more).head? ≠ some '.' := by
  obtain ⟨c, hc, hhead⟩ := h.exists_head? more
  rw [hhead]
  simpa using Text.ne_of_isNameStart hc (by decide)

/-- A numeral consists of digits. -/
theorem IsNumeral.isDigits {key : String} (h : IsNumeral key) : Lexeme.IsDigits key.toList := by
  obtain ⟨n, -, rfl⟩ := h
  rw [Decimal.toList_natText]
  exact Lexeme.isDigits_toDigits n

/-! ## Texts of operands -/

/-- Neither a word nor a number goes on with a text. -/
def EndsText (more : List Char) : Prop :=
  ∀ l : Lexeme, (∀ p, l ≠ .punct p) → ¬ l.GoesOn more

/-- The last key of a path does not go on with a text. -/
structure Path.Ends (p : Path) (more : List Char) : Prop where
  word (w : String) : ¬ (Lexeme.word w).GoesOn more
  number (h : p.EndsInNumeral) (n : Number) : ¬ (Lexeme.number n).GoesOn more

/-- Where a text ends, every path ends. -/
theorem EndsText.path {more : List Char} (h : EndsText more) (p : Path) : p.Ends more where
  word w := h (.word w) nofun
  number _ n := h (.number n) nofun

/-- A text ends at its end. -/
theorem endsText_nil : EndsText [] := by
  intro l _ h
  cases h

/-- A text ends in front of a bracket. -/
theorem endsText_bracket {c : Char} (hc : c ∈ ['[', ']', ')']) (more : List Char) :
    EndsText (c :: more) := by
  have hstop : Text.isNameRest c = false ∧ Text.isDigit c = false ∧ c ≠ '.' ∧ c ≠ '?' := by
    simp only [List.mem_cons, List.not_mem_nil, or_false] at hc
    rcases hc with rfl | rfl | rfl <;> decide +kernel
  obtain ⟨hrest, hdigit, hdot, hquestion⟩ := hstop
  intro l hl h
  cases h with
  | digit h => rw [hdigit] at h; cases h
  | fraction => exact hdot rfl
  | name _ h => simp [hrest, hquestion] at h
  | mark => exact hl _ rfl

/-- A text ends in front of the mark of a range. -/
theorem endsText_range (more : List Char) : EndsText ('.' :: '.' :: more) := by
  intro l hl
  cases l with
  | word w => exact Lexeme.not_word_goesOn_dot w _
  | number n => exact Lexeme.not_number_goesOn_dot n (by rintro _ ⟨⟩; decide)
  | string s => nofun
  | punct p => exact absurd rfl (hl p)

/-- The text of an operand has the lexemes of a derivation of it. -/
def Operand.Spelled (o : Operand) : Prop :=
  ∃ t : OperandTree, t.operand = o ∧ ∀ more, EndsText more → Lexeme.Cut o.text.toList t.lexemes more

/-- The text of a path has the lexemes of its steps, whatever steps come behind them. -/
def Path.Spelled (p : Path) : Prop :=
  ∃ ls, (∀ suffix : SuffixTree, ∃ t : OperandTree,
      t.operand = .path (suffix.path p) ∧ t.lexemes = ls ++ suffix.lexemes) ∧
    ∀ more, p.Ends more → Lexeme.Cut p.text.toList ls more

open Lexeme

/-- The text of a plain literal is read as it. -/
theorem Operand.spelled_literal {v : Value} (h : v.IsPlain) : (Operand.literal v).Spelled := by
  match v, h with
  | .null, _ =>
    exact ⟨.null, rfl, fun more hmore => cut_word
      ⟨'n', ['u', 'l', 'l'], by decide, List.all_eq_true.1 (by decide), .inl rfl⟩ (hmore _ nofun)⟩
  | .bool true, _ =>
    exact ⟨.true, rfl, fun more hmore => cut_word
      ⟨'t', ['r', 'u', 'e'], by decide, List.all_eq_true.1 (by decide), .inl rfl⟩ (hmore _ nofun)⟩
  | .bool false, _ =>
    exact ⟨.false, rfl, fun more hmore => cut_word
      ⟨'f', ['a', 'l', 's', 'e'], by decide, List.all_eq_true.1 (by decide), .inl rfl⟩
      (hmore _ nofun)⟩
  | .number (.int i), h =>
    exact ⟨.number (.int i), rfl, fun more hmore => cut_integer h (hmore _ nofun)⟩
  | .string s, h => exact ⟨.string s, rfl, fun more _ => cut_jsonString h more⟩

/-- The text of a range is read as it if those of its bounds are. -/
theorem Operand.spelled_range {first last : Operand} (hfirst : first.Spelled)
    (hlast : last.Spelled) : (Operand.range first last).Spelled := by
  obtain ⟨t, ht, hcut⟩ := hfirst
  obtain ⟨t', ht', hcut'⟩ := hlast
  refine ⟨.range t t', by rw [OperandTree.operand, ht, ht'], fun more _ => ?_⟩
  have hclose := cut_single .closeParen (by decide) more
  have hbehind := (hcut' _ (endsText_bracket (by decide) more)).append hclose
  have hrange := (cut_single .range (by decide) _).append hbehind
  have hinner := (hcut _ (endsText_range _)).append hrange
  have htext : (Operand.range first last).text.toList =
      ['('] ++ (first.text.toList ++ (['.', '.'] ++ (last.text.toList ++ [')']))) := by
    simp [Operand.text]
  rw [htext]
  exact (cut_single .openParen (by decide) _).append hinner

/-- The text of an operand that is a path is read as it if that of the path is. -/
theorem Operand.spelled_path {p : Path} (h : p.Spelled) : (Operand.path p).Spelled := by
  obtain ⟨ls, htree, hcut⟩ := h
  obtain ⟨t, ht, hls⟩ := htree .stop
  rw [SuffixTree.lexemes, List.append_nil] at hls
  exact ⟨t, ht, fun more hmore => hls ▸ hcut more (hmore.path p)⟩

namespace Path

/-- The text of a variable is read as it. -/
theorem spelled_var {name : String} (h : IsWord name) (hname : name ∉ literalWords) :
    (var name).Spelled :=
  ⟨[word name], fun suffix => ⟨.named name hname suffix, rfl, rfl⟩,
    fun _ hmore => cut_word h (hmore.word name)⟩

/-- An operand in brackets is spelled. -/
theorem cut_brackets {key : Operand} {t : OperandTree}
    (hcut : ∀ more, EndsText more → Cut key.text.toList t.lexemes more) (more : List Char) :
    Cut ('[' :: (key.text.toList ++ [']']))
      (punct .openBracket :: (t.lexemes ++ [punct .closeBracket])) more := by
  have hclose := cut_single .closeBracket (by decide) more
  exact (cut_single .openBracket (by decide) _).append
    ((hcut _ (endsText_bracket (by decide) more)).append hclose)

/-- The text of a lookup is read as it if that of the name is. -/
theorem spelled_lookup {name : Operand} (h : name.Spelled) : (lookup name).Spelled := by
  obtain ⟨t, ht, hcut⟩ := h
  refine ⟨punct .openBracket :: (t.lexemes ++ [punct .closeBracket]), fun suffix => ?_,
    fun more _ => ?_⟩
  · exact ⟨.lookup t suffix, by rw [OperandTree.operand, ht], by simp [OperandTree.lexemes]⟩
  · have htext : (lookup name).text.toList = '[' :: (name.text.toList ++ [']']) := by
      simp [Path.text]
    rw [htext]
    exact cut_brackets hcut more

variable {base : Path}

/-- The text of an item is read as it if those of the path and of the key are. -/
theorem spelled_item {key : Operand} (hbase : base.Spelled) (hkey : key.Spelled) :
    (item base key).Spelled := by
  obtain ⟨ls, htree, hcut⟩ := hbase
  obtain ⟨t, ht, hcut'⟩ := hkey
  refine ⟨ls ++ punct .openBracket :: (t.lexemes ++ [punct .closeBracket]), fun suffix => ?_,
    fun more _ => ?_⟩
  · obtain ⟨t', ht', hls⟩ := htree (.item t suffix)
    exact ⟨t', by rw [ht', SuffixTree.path, ht], by simp [hls, SuffixTree.lexemes]⟩
  · have htext : (item base key).text.toList =
        base.text.toList ++ '[' :: (key.text.toList ++ [']']) := by
      simp [Path.text]
    rw [htext]
    exact (hcut _ ((endsText_bracket (by decide) _).path base)).append (cut_brackets hcut' more)

/-- A field stands behind a dot. -/
theorem toList_text_field (base : Path) (key : String) :
    (field base key).text.toList = base.text.toList ++ (['.'] ++ key.toList) := by
  simp [Path.text]

/-- A key behind a dot is spelled, if it is a lexeme that is read as the key and the path before it
does not go on with the dot. -/
theorem spelled_field {key : String} {l : Lexeme} (hbase : base.Spelled)
    (hstep : ∀ (p : Path) (suffix : SuffixTree), ∃ longer : SuffixTree,
      longer.path p = suffix.path (field p key) ∧
        longer.lexemes = punct .dot :: l :: suffix.lexemes)
    (hends : ∀ more, base.Ends ('.' :: (key.toList ++ more)))
    (hdot : ∀ more, (key.toList ++ more).head? ≠ some '.')
    (hkey : ∀ more, (field base key).Ends more → Cut key.toList [l] more) :
    (field base key).Spelled := by
  obtain ⟨ls, htree, hcut⟩ := hbase
  refine ⟨ls ++ [punct .dot, l], fun suffix => ?_, fun more hmore => ?_⟩
  · obtain ⟨longer, hpath, hlonger⟩ := hstep base suffix
    obtain ⟨t, ht, hls⟩ := htree longer
    exact ⟨t, by rw [ht, hpath], by simp [hls, hlonger]⟩
  · rw [toList_text_field]
    exact (hcut _ (hends more)).append ((cut_dot (hdot more)).append (hkey more hmore))

/-- The text of a field that is a word is read as it. -/
theorem spelled_field_word {key : String} (hbase : base.Spelled) (hkey : IsWord key) :
    (field base key).Spelled := by
  refine spelled_field hbase (fun _ suffix => ⟨.field key suffix, rfl, rfl⟩) (fun more => ?_)
    hkey.head?_ne_dot fun more hmore => cut_word hkey (hmore.word key)
  refine ⟨fun w => not_word_goesOn_dot w _, fun _ n => not_number_goesOn_dot n ?_⟩
  obtain ⟨c, hc, hhead⟩ := hkey.exists_head? more
  rw [hhead]
  rintro _ ⟨⟩
  exact Text.not_isDigit_of_isNameStart hc

/-- A path that does not end in a numeral goes on with no dot. -/
theorem ends_dot (hlast : ¬ base.EndsInNumeral) (more : List Char) : base.Ends ('.' :: more) :=
  ⟨fun w => not_word_goesOn_dot w more, fun h => absurd h hlast⟩

/-- The text of a field that is a numeral is read as it, if no numeral stands in front of the dot.
-/
theorem spelled_field_numeral {key : String} (hbase : base.Spelled) (hkey : IsNumeral key)
    (hlast : ¬ base.EndsInNumeral) : (field base key).Spelled := by
  have ⟨n, hn, heq⟩ := hkey
  have hn' : Number.isUnsigned64 n = true := by
    simp only [Number.isSigned64, Number.isUnsigned64, decide_eq_true_eq] at hn ⊢
    omega
  refine spelled_field hbase (fun p suffix => ⟨.place n hn' suffix, ?_, rfl⟩)
    (fun more => ends_dot hlast _) (hkey.isDigits.head?_ne (by decide)) fun more hmore => ?_
  · rw [SuffixTree.path, heq]
  · rw [heq]
    exact cut_numeral hn (hmore.number hkey _)

end Path

mutual

/-- The text of a plain operand is read as it, by induction on the operand. -/
theorem Operand.IsPlain.spelled : ∀ {o : Operand}, o.IsPlain → o.Spelled
  | .literal _, h => Operand.spelled_literal h
  | .range _ _, h => Operand.spelled_range h.1.spelled h.2.spelled
  | .path _, h => Operand.spelled_path (Path.IsPlain.spelled h)

/-- The text of a plain path is read as it, by induction on the path. -/
theorem Path.IsPlain.spelled : ∀ {p : Path}, p.IsPlain → p.Spelled
  | .var _, h => Path.spelled_var h.1 h.2
  | .lookup _, h => Path.spelled_lookup (Operand.IsPlain.spelled h)
  | .field _ _, ⟨hbase, .inl hkey⟩ => Path.spelled_field_word hbase.spelled hkey
  | .field _ _, ⟨hbase, .inr ⟨hkey, hlast⟩⟩ => Path.spelled_field_numeral hbase.spelled hkey hlast
  | .item _ _, h => Path.spelled_item h.1.spelled h.2.spelled

end

/-- A text is an operand if its lexemes have a derivation as that operand. -/
theorem Operand.read_eq_ok_iff {source : String} {o : Operand} : Operand.read source = .ok o ↔
    ∃ t : OperandTree, lex source.toList = .ok t.lexemes ∧ t.operand = o := by
  have hcomplete (t : OperandTree) : Reading.operand t.lexemes = .ok (t.operand, []) := by
    have h := Reading.operand_append t endsPath_nil
    rwa [List.append_nil] at h
  exact (Reading.recognizes_of (fun _ _ _ h => Reading.exists_tree_of_operand h) hcomplete
    fun _ _ => OperandTree.lexemes_inj).whole_eq_ok_iff

/-- What is cut into its lexemes in every place is read back from the whole text. -/
theorem Operand.Spelled.read {o : Operand} (h : o.Spelled) : Operand.read o.text = .ok o := by
  obtain ⟨t, ht, hcut⟩ := h
  exact Operand.read_eq_ok_iff.2 ⟨t, (hcut [] endsText_nil).lex, ht⟩

/-- The text of an operand is read as that operand, if it shows the whole operand. -/
theorem Operand.read_text (o : Operand) (h : o.IsPlain) : Operand.read o.text = .ok o :=
  h.spelled.read

/-- A range of page numbers, with numerals in front of a bracket and of the two points, a word that
ends with a dash, and a word that is a literal elsewhere. -/
def pageRange : Operand :=
  .range (.path (.field (.item (.field (.var "pages?") "0") (.literal (.number (.int (-3))))) "10"))
    (.path (.field (.lookup (.range (.literal (.string "it's")) (.path (.var "on-")))) "nil"))

/-- The range is built of plain parts. -/
theorem isPlain_pageRange : pageRange.IsPlain := by
  have hpages : IsWord "pages?" :=
    ⟨'p', ['a', 'g', 'e', 's'], by decide, List.all_eq_true.1 (by decide), .inr rfl⟩
  have hon : IsWord "on-" := ⟨'o', ['n', '-'], by decide, List.all_eq_true.1 (by decide), .inl rfl⟩
  have hnil : IsWord "nil" := ⟨'n', ['i', 'l'], by decide, List.all_eq_true.1 (by decide), .inl rfl⟩
  have hzero : IsNumeral "0" := ⟨0, by decide, rfl⟩
  have hten : IsNumeral "10" := ⟨10, by decide, rfl⟩
  refine ⟨⟨⟨⟨⟨hpages, by decide⟩, .inr ⟨hzero, nofun⟩⟩, ?_⟩, .inr ⟨hten, nofun⟩⟩,
    ⟨⟨?_, hon, by decide⟩, .inl hnil⟩⟩
  · exact (by decide : Number.isSigned64 (-3) = true)
  · show ∀ c ∈ "it's".toList, c ≠ '"' ∧ c ≠ '\\' ∧ ¬ c < ' '
    simp

/-- A range with fields, items, strings in brackets and a lookup is read back. -/
theorem read_text_pageRange :
    pageRange.text = "(pages?.0[-3].10..[(\"it's\"..on-)].nil)" ∧
      Operand.read pageRange.text = .ok pageRange :=
  ⟨by decide +kernel, Operand.read_text pageRange isPlain_pageRange⟩

end Stencil
