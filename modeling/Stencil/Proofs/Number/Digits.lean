import Stencil.Number.Reading
import Stencil.Text.Word

/-!
# The digits of integers

The digits that an integer is written with are read as that integer
(`Number.readSigned64?_intText`).  They are also digits in the wider sense of expressions, where the
digits of every script count.
-/

set_option autoImplicit false

namespace Stencil

/-- A decimal digit is a digit. -/
theorem Text.isDigit_of_isDecimalDigit {c : Char} (h : Number.isDecimalDigit c = true) :
    isDigit c = true := by
  simp only [Number.isDecimalDigit, Bool.and_eq_true, decide_eq_true_eq, Char.le_def,
    UInt32.le_iff_toNat_le] at h
  obtain ⟨hlow, hhigh⟩ := h
  change 48 ≤ c.toNat at hlow
  change c.toNat ≤ 57 at hhigh
  rw [isDigit, digitRanges, inRanges, if_neg (by omega), if_pos (by omega)]

namespace Decimal

/-- The digits of a number are decimal ones. -/
theorem isDecimalDigit_of_mem {n : Nat} {c : Char} (h : c ∈ Nat.toDigits 10 n) :
    Number.isDecimalDigit c = true :=
  Nat.isDigit_of_mem_toDigits (by decide) (by decide) h

/-- The text of a natural number are its decimal digits. -/
theorem toList_natText (n : Nat) : (natText n).toList = Nat.toDigits 10 n := by
  rw [natText, String.toList_ofList]

/-- A natural number has the same text as an integer. -/
theorem intText_natCast (n : Nat) : intText n = natText n :=
  rfl

/-- The digits of an integer stand behind a sign or alone. -/
theorem exists_toList_intText (i : Int) : ∃ sign n, (sign = [] ∨ sign = ['-']) ∧
    (intText i).toList = sign ++ Nat.toDigits 10 n := by
  cases i with
  | ofNat n => exact ⟨[], n, .inl rfl, toList_natText n⟩
  | negSucc n =>
    refine ⟨['-'], n + 1, .inr rfl, ?_⟩
    rw [intText, String.toList_append, toList_natText]
    rfl

end Decimal

namespace Number

/-- Digits have the value that the library gives them. -/
theorem digitsValue_eq (cs : List Char) : digitsValue cs = Nat.ofDigitChars 10 cs 0 :=
  (Nat.ofDigitChars_eq_foldl ..).symm

/-- A natural number is read back from its digits. -/
theorem readNat?_toDigits (n : Nat) : readNat? (Nat.toDigits 10 n) = some n := by
  have hempty : (Nat.toDigits 10 n).isEmpty = false := by simp [Nat.toDigits_ne_nil]
  have hdigits : (Nat.toDigits 10 n).all isDecimalDigit = true :=
    List.all_eq_true.2 fun c hc => Decimal.isDecimalDigit_of_mem hc
  have hvalue : digitsValue (Nat.toDigits 10 n) = n := by
    rw [digitsValue_eq, Nat.ofDigitChars_toDigits (by decide) (by decide)]
  rw [readNat?, hempty, hdigits, hvalue]
  rfl

/-- A natural number is read back from its digits as an integer. -/
theorem readInt?_toDigits (n : Nat) : readInt? (Nat.toDigits 10 n) = some (n : Int) := by
  have hdigit : ∀ c ∈ Nat.toDigits 10 n, isDecimalDigit c = true :=
    fun c hc => Decimal.isDecimalDigit_of_mem hc
  have hread := readNat?_toDigits n
  unfold readInt?
  split
  · next heq => exact absurd (hdigit '-' (by rw [heq]; exact List.mem_cons_self ..)) (by decide)
  · next heq => exact absurd (hdigit '+' (by rw [heq]; exact List.mem_cons_self ..)) (by decide)
  · rw [hread]
    rfl

/-- An integer is read back from its text. -/
theorem readInt?_intText (i : Int) : readInt? (Decimal.intText i).toList = some i := by
  cases i with
  | ofNat n =>
    rw [Decimal.intText, Decimal.toList_natText]
    exact readInt?_toDigits n
  | negSucc n =>
    have hminus : "-".toList = ['-'] := rfl
    rw [Decimal.intText, String.toList_append, Decimal.toList_natText, hminus]
    rw [List.singleton_append, readInt?, readNat?_toDigits]
    rfl

/-- The text of an integer of 64 bits is read as that integer. -/
theorem readSigned64?_intText {i : Int} (h : isSigned64 i = true) :
    readSigned64? (Decimal.intText i).toList = some i := by
  rw [readSigned64?, readInt?_intText, Option.filter_some, if_pos h]

end Number

end Stencil
