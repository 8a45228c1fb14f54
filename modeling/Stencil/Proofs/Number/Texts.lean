import Stencil.Proofs.Number.Digits
import Stencil.Proofs.Text.Runs

/-!
# The texts of numbers

An integer is written in decimal digits behind an optional sign (`IntegerText`).  The digits of a
floating point number may have a point among or beside them and an exponent behind them
(`DecimalText`).  The readers of numbers accept the texts of these grammars and no others, and
answer what the texts stand for (`readSigned64?_eq_some_iff`, `readFloat?_eq_some_iff`).
-/

set_option autoImplicit false

namespace Stencil.Number

/-- The characters of a text are decimal digits. -/
def Digits (cs : List Char) : Prop :=
  ∀ c ∈ cs, isDecimalDigit c = true

/-- One digit or more, which stand for an integer. -/
inductive NaturalText : List Char → Int → Prop
  | digits {ds : List Char} (hds : Digits ds) (hne : ds ≠ []) :
      NaturalText ds (Nat.ofDigitChars 10 ds 0)

section Signs

variable {α : Type} [Neg α]

/-- A text of a grammar behind an optional sign. -/
inductive Signed (Spells : List Char → α → Prop) : List Char → α → Prop
  | bare {cs : List Char} {a : α} (h : Spells cs a) : Signed Spells cs a
  | plus {cs : List Char} {a : α} (h : Spells cs a) : Signed Spells ('+' :: cs) a
  | minus {cs : List Char} {a : α} (h : Spells cs a) : Signed Spells ('-' :: cs) (-a)

/-- A reader that takes a sign off first accepts the texts with an optional sign, because a text
of the grammar does not begin with one. -/
theorem eq_some_iff_signed {read : List Char → Option α} {Spells : List Char → α → Prop}
    (hread : ∀ cs a, read cs = some a ↔ Spells cs a)
    (hsign : ∀ c cs a, Spells (c :: cs) a → c ≠ '-' ∧ c ≠ '+') {cs : List Char} {answer : Option α}
    (hminus : ∀ rest, cs = '-' :: rest → answer = (read rest).map Neg.neg)
    (hplus : ∀ rest, cs = '+' :: rest → answer = read rest)
    (hbare : (∀ rest, cs ≠ '-' :: rest) → (∀ rest, cs ≠ '+' :: rest) → answer = read cs) {a : α} :
    answer = some a ↔ Signed Spells cs a := by
  constructor
  · intro h
    by_cases hm : ∃ rest, cs = '-' :: rest
    · obtain ⟨rest, rfl⟩ := hm
      rw [hminus rest rfl, Option.map_eq_some_iff] at h
      obtain ⟨b, hb, rfl⟩ := h
      exact .minus ((hread rest b).1 hb)
    by_cases hp : ∃ rest, cs = '+' :: rest
    · obtain ⟨rest, rfl⟩ := hp
      rw [hplus rest rfl] at h
      exact .plus ((hread rest a).1 h)
    rw [hbare (fun rest heq => hm ⟨rest, heq⟩) (fun rest heq => hp ⟨rest, heq⟩)] at h
    exact .bare ((hread cs a).1 h)
  · rintro (h | h | h)
    · rw [hbare, hread]
      · exact h
      · rintro rest rfl
        exact (hsign _ _ _ h).1 rfl
      · rintro rest rfl
        exact (hsign _ _ _ h).2 rfl
    · rw [hplus _ rfl, hread]
      exact h
    · rw [hminus _ rfl, (hread _ _).2 h]
      rfl

end Signs

/-- Decimal digits behind an optional sign. -/
def IntegerText : List Char → Int → Prop :=
  Signed NaturalText

/-- Nothing, or a letter `e` and an integer. -/
inductive ExponentText : List Char → Int → Prop
  | none : ExponentText [] 0
  | some {c : Char} {cs : List Char} {e : Int} (hc : c = 'e' ∨ c = 'E') (h : IntegerText cs e) :
      ExponentText (c :: cs) e

/-- Decimal digits with an optional point among or beside them and an optional exponent. -/
inductive DecimalText : List Char → Float → Prop
  | whole {ds tail : List Char} {e : Int} (hds : Digits ds) (hne : ds ≠ [])
      (htail : ExponentText tail e) :
      DecimalText (ds ++ tail) (scientific (Nat.ofDigitChars 10 ds 0) e)
  | point {ds fs tail : List Char} {e : Int} (hds : Digits ds) (hfs : Digits fs)
      (hne : ds ≠ [] ∨ fs ≠ []) (htail : ExponentText tail e) :
      DecimalText (ds ++ '.' :: (fs ++ tail))
        (scientific (Nat.ofDigitChars 10 (ds ++ fs) 0) (e - fs.length))

/-- A decimal behind an optional sign, in the range of floating point numbers. -/
def FloatText (cs : List Char) (x : Float) : Prop :=
  Signed DecimalText cs x ∧ x.isFinite = true

section Integers

/-- A natural number is read from its texts and from no other ones. -/
theorem readNat?_eq_some_iff {cs : List Char} {n : Int} :
    (readNat? cs).map Int.ofNat = some n ↔ NaturalText cs n := by
  rw [readNat?, Option.map_eq_some_iff]
  constructor
  · rintro ⟨m, hm, rfl⟩
    split at hm
    · next h =>
      rw [Bool.and_eq_true, Bool.not_eq_true', List.isEmpty_eq_false_iff, List.all_eq_true] at h
      cases hm
      rw [digitsValue_eq]
      exact .digits h.2 h.1
    · cases hm
  · rintro ⟨hds, hne⟩
    have hcheck : (!cs.isEmpty && cs.all isDecimalDigit) = true := by
      rw [Bool.and_eq_true, Bool.not_eq_true', List.isEmpty_eq_false_iff, List.all_eq_true]
      exact ⟨hne, hds⟩
    rw [if_pos hcheck, digitsValue_eq]
    exact ⟨_, rfl, rfl⟩

/-- A digit is no sign. -/
theorem ne_sign_of_isDecimalDigit {c : Char} (h : isDecimalDigit c = true) : c ≠ '-' ∧ c ≠ '+' :=
  ⟨fun heq => absurd h (by rw [heq]; decide), fun heq => absurd h (by rw [heq]; decide)⟩

/-- The text of a natural number begins with no sign. -/
theorem NaturalText.head {c : Char} {cs : List Char} {n : Int} (h : NaturalText (c :: cs) n) :
    c ≠ '-' ∧ c ≠ '+' := by
  obtain ⟨hds, -⟩ := h
  exact ne_sign_of_isDecimalDigit (hds c List.mem_cons_self)

/-- A text is read as an integer just if it spells that integer. -/
theorem readInt?_eq_some_iff {cs : List Char} {n : Int} :
    readInt? cs = some n ↔ IntegerText cs n := by
  refine eq_some_iff_signed (fun _ _ => readNat?_eq_some_iff) (fun _ _ _ => NaturalText.head)
    ?_ ?_ fun hminus hplus => ?_
  · rintro rest rfl
    show Option.map _ _ = _
    cases readNat? rest <;> rfl
  · rintro rest rfl
    rfl
  · rw [readInt?]
    · exact hminus
    · exact hplus

/-- A text is read as an integer of 64 bits just if it spells that integer. -/
theorem readSigned64?_eq_some_iff {cs : List Char} {n : Int} :
    readSigned64? cs = some n ↔ IntegerText cs n ∧ isSigned64 n = true := by
  rw [readSigned64?, Option.filter_eq_some_iff, readInt?_eq_some_iff]

end Integers

section Floats

/-- An exponent is read from its texts and from no other ones. -/
theorem readExponent?_eq_some_iff {cs : List Char} {e : Int} :
    readExponent? cs = some e ↔ ExponentText cs e := by
  cases cs with
  | nil => exact ⟨fun h => Option.some_inj.1 h ▸ .none, fun | .none => rfl⟩
  | cons c cs =>
    rw [readExponent?]
    constructor
    · intro h
      split at h
      · next hc => exact .some hc (readInt?_eq_some_iff.1 h)
      · cases h
    · rintro (- | ⟨hc, h⟩)
      rw [if_pos hc, readInt?_eq_some_iff]
      exact h

/-- An exponent begins neither with a digit nor with a point. -/
theorem ExponentText.head {cs : List Char} {e : Int} (h : ExponentText cs e) :
    (∀ c ∈ cs.head?, isDecimalDigit c = false) ∧ ∀ rest, cs ≠ '.' :: rest := by
  cases h with
  | none => exact ⟨nofun, nofun⟩
  | @some c cs e hc =>
    rcases hc with rfl | rfl
    · exact ⟨fun _ h => Option.some_inj.1 h ▸ by decide, fun _ h => nomatch h⟩
    · exact ⟨fun _ h => Option.some_inj.1 h ▸ by decide, fun _ h => nomatch h⟩

/-- The digits in front of a text are digits. -/
theorem digits_takeWhile (cs : List Char) : Digits (cs.takeWhile isDecimalDigit) :=
  fun _ h => List.mem_takeWhile_imp h

/-- How a number with a point is read: the digits on both sides, and the exponent that they are
shifted by. -/
theorem readUnsignedFloat?_point {cs rest : List Char}
    (hrest : cs.dropWhile isDecimalDigit = '.' :: rest) : readUnsignedFloat? cs =
      if cs.takeWhile isDecimalDigit = [] ∧ rest.takeWhile isDecimalDigit = [] then none
      else (readExponent? (rest.dropWhile isDecimalDigit)).map fun e =>
        scientific (digitsValue (cs.takeWhile isDecimalDigit ++ rest.takeWhile isDecimalDigit))
          (e - (rest.takeWhile isDecimalDigit).length) := by
  unfold readUnsignedFloat?
  simp only [hrest, Bool.and_eq_true, List.isEmpty_iff]

/-- How a number without a point is read: its digits and the exponent. -/
theorem readUnsignedFloat?_whole {cs : List Char}
    (hrest : ∀ rest, cs.dropWhile isDecimalDigit ≠ '.' :: rest) : readUnsignedFloat? cs =
      if cs.takeWhile isDecimalDigit = [] then none
      else (readExponent? (cs.dropWhile isDecimalDigit)).map fun e =>
        scientific (digitsValue (cs.takeWhile isDecimalDigit)) e := by
  unfold readUnsignedFloat?
  dsimp only
  split
  · next h => exact absurd h (hrest _)
  · simp only [List.isEmpty_nil, Bool.and_true, List.isEmpty_iff, List.append_nil,
      List.length_nil, Int.natCast_zero, Int.sub_zero]

/-- What is read as a number without a sign is the text of one. -/
theorem decimalText_of_readUnsignedFloat? {cs : List Char} {x : Float}
    (h : readUnsignedFloat? cs = some x) : DecimalText cs x := by
  by_cases hpoint : ∃ rest, cs.dropWhile isDecimalDigit = '.' :: rest
  · obtain ⟨rest, hrest⟩ := hpoint
    rw [readUnsignedFloat?_point hrest] at h
    split at h
    · cases h
    · next hne =>
      obtain ⟨e, he, rfl⟩ := Option.map_eq_some_iff.1 h
      have htext := DecimalText.point (digits_takeWhile cs) (digits_takeWhile rest)
        (not_and_or.1 hne) (readExponent?_eq_some_iff.1 he)
      rwa [List.takeWhile_append_dropWhile, ← hrest, List.takeWhile_append_dropWhile,
        ← digitsValue_eq] at htext
  · rw [readUnsignedFloat?_whole fun rest heq => hpoint ⟨rest, heq⟩] at h
    split at h
    · cases h
    · next hne =>
      obtain ⟨e, he, rfl⟩ := Option.map_eq_some_iff.1 h
      have htext := DecimalText.whole (digits_takeWhile cs) hne (readExponent?_eq_some_iff.1 he)
      rwa [List.takeWhile_append_dropWhile, ← digitsValue_eq] at htext

/-- A text is read as a decimal just if it spells that decimal. -/
theorem readUnsignedFloat?_eq_some_iff {cs : List Char} {x : Float} :
    readUnsignedFloat? cs = some x ↔ DecimalText cs x := by
  refine ⟨decimalText_of_readUnsignedFloat?, fun h => ?_⟩
  cases h with
  | @whole ds tail e hds hne htail =>
    obtain ⟨htake, hdrop⟩ := takeWhile_dropWhile_append hds htail.head.1
    rw [readUnsignedFloat?_whole (by rw [hdrop]; exact htail.head.2), htake, hdrop, if_neg hne,
      readExponent?_eq_some_iff.2 htail, digitsValue_eq]
    rfl
  | @point ds fs tail e hds hfs hne htail =>
    have hstop : ∀ c ∈ ('.' :: (fs ++ tail)).head?, isDecimalDigit c = false :=
      fun _ h => Option.some_inj.1 h ▸ by decide
    obtain ⟨htake, hdrop⟩ := takeWhile_dropWhile_append hds hstop
    obtain ⟨htake', hdrop'⟩ := takeWhile_dropWhile_append hfs htail.head.1
    rw [readUnsignedFloat?_point hdrop, htake, htake', hdrop', if_neg (not_and_or.2 hne),
      readExponent?_eq_some_iff.2 htail, digitsValue_eq]
    rfl

/-- A decimal begins with a digit or with its point. -/
theorem DecimalText.head {c : Char} {cs : List Char} {x : Float} (h : DecimalText (c :: cs) x) :
    c ≠ '-' ∧ c ≠ '+' := by
  have hdigits {ds more : List Char} (hds : Digits ds) (hne : ds ≠ [])
      (hall : c :: cs = ds ++ more) : c ≠ '-' ∧ c ≠ '+' := by
    obtain ⟨d, ds, rfl⟩ := List.exists_cons_of_ne_nil hne
    obtain ⟨rfl, -⟩ := List.cons_eq_cons.1 hall
    exact ne_sign_of_isDecimalDigit (hds c List.mem_cons_self)
  generalize hall : c :: cs = all at h
  cases h with
  | whole hds hne => exact hdigits hds hne hall
  | @point ds _ _ _ hds =>
    by_cases hne : ds = []
    · subst hne
      obtain ⟨rfl, -⟩ := List.cons_eq_cons.1 hall
      exact ⟨by decide, by decide⟩
    · exact hdigits hds hne hall

/-- A text is read as a floating point number just if it spells that number and it is finite. -/
theorem readFloat?_eq_some_iff {cs : List Char} {x : Float} :
    readFloat? cs = some x ↔ FloatText cs x := by
  unfold readFloat?
  dsimp only
  rw [Option.filter_eq_some_iff]
  refine and_congr_left' (eq_some_iff_signed (fun _ _ => readUnsignedFloat?_eq_some_iff)
    (fun _ _ _ => DecimalText.head) ?_ ?_ fun hminus hplus => ?_)
  · rintro rest rfl
    rfl
  · rintro rest rfl
    rfl
  · split
    · exact absurd rfl (hminus _)
    · exact absurd rfl (hplus _)
    · rfl

end Floats

end Stencil.Number
