import Mathlib.Data.List.TakeWhile
import Stencil.Proofs.Node.Shape

/-!
# Names as expressions

The variable that a tag binds has a name that begins with a letter or a low line and goes on with
word characters and dashes (`isDashedName_of_assignment`).  Such a name is one word of an expression
(`Lexeme.lex_name`), so an output that consists of it stands for the variable, unless it is one of
the words for a literal (`Output.read_name`).
-/

set_option autoImplicit false

namespace Stencil

namespace Text

/-- Names begin with a letter of the basic alphabet or the low line, which lie between two code
points. -/
theorem toNat_of_isNameStart {c : Char} (h : isNameStart c = true) :
    65 ≤ c.toNat ∧ c.toNat ≤ 122 := by
  simp only [isNameStart, Bool.or_eq_true, Bool.and_eq_true, decide_eq_true_eq, Char.le_def,
    UInt32.le_iff_toNat_le, beq_iff_eq] at h
  obtain (⟨hlow, hhigh⟩ | ⟨hlow, hhigh⟩) | rfl := h
  · exact ⟨hlow, Nat.le_trans hhigh (by decide)⟩
  · exact ⟨Nat.le_trans (by decide) hlow, hhigh⟩
  · decide

variable {c : Char} (h : isNameStart c = true)

include h

/-- No name begins with a digit. -/
theorem not_isDigit_of_isNameStart : isDigit c = false := by
  obtain ⟨hlow, hhigh⟩ := toNat_of_isNameStart h
  rw [isDigit, digitRanges, inRanges, if_neg (by omega), if_neg (by omega), inRanges,
    if_pos (by omega)]

/-- No name begins with white space. -/
theorem not_isBlank_of_isNameStart : isBlank c = false := by
  obtain ⟨hlow, hhigh⟩ := toNat_of_isNameStart h
  rw [isBlank, blankRanges, inRanges, if_neg (by omega), if_neg (by omega), inRanges,
    if_neg (by omega), if_neg (by omega), inRanges, if_pos (by omega)]

/-- No name begins with a character below the letters. -/
theorem ne_of_isNameStart {d : Char} (hd : d.toNat < 65) : c ≠ d := by
  rintro rfl
  exact absurd (toNat_of_isNameStart h).1 (Nat.not_le.2 hd)

end Text

namespace Lexeme

open Text

variable {c : Char} {rest : List Char}

/-- A text that begins with no minus sign is read as a number without one. -/
theorem splitNumber?_unsigned (h : c ≠ '-') :
    splitNumber? (c :: rest) = splitUnsigned? [] (c :: rest) := by
  unfold splitNumber?
  split
  · next heq => exact absurd (List.cons.inj heq).1 h
  · rfl

/-- No number begins with the first character of a name. -/
theorem splitNumber?_name (h : isNameStart c = true) : splitNumber? (c :: rest) = none := by
  rw [splitNumber?_unsigned (ne_of_isNameStart h (by decide)), splitUnsigned?,
    List.takeWhile_cons, not_isDigit_of_isNameStart h]
  rfl

/-- A name is a word as a whole. -/
theorem splitWord_name (hrest : rest.all isNameRest = true) :
    splitWord c rest = (c :: rest, []) := by
  have hall := List.all_eq_true.1 hrest
  have htake : rest.takeWhile isNameRest = rest := List.takeWhile_eq_self_iff.2 hall
  have hdrop : rest.dropWhile isNameRest = [] := List.dropWhile_eq_nil_iff.2 hall
  unfold splitWord
  rw [htake, hdrop]

/-- A name is lexed to one word. -/
theorem lex_name {name : List Char} (h : isDashedName name = true) :
    lex name = .ok [.word (String.ofList name)] := by
  cases name with
  | nil => cases h
  | cons c rest =>
    obtain ⟨hstart, hrest⟩ := Bool.and_eq_true_iff.1 h
    have htrim : trimStart (c :: rest) = c :: rest := by
      rw [trimStart, List.dropWhile_cons, not_isBlank_of_isNameStart hstart]
      rfl
    have hnext : next c rest = .ok (.word (String.ofList (c :: rest)), []) := by
      have hquotes : ¬ (c = '"' ∨ c = '\'') := by
        rintro (hc | hc)
        · exact ne_of_isNameStart hstart (by decide) hc
        · exact ne_of_isNameStart hstart (by decide) hc
      rw [next, if_neg hquotes, splitNumber?_name hstart, if_pos hstart, splitWord_name hrest]
    have hend : lex [] = .ok [] := by
      rw [lex]
      rfl
    rw [lex]
    split
    · next hnil => rw [htrim] at hnil; cases hnil
    · next c' rest' hcons =>
      rw [htrim] at hcons
      cases hcons
      split
      · next e herr => rw [hnext] at herr; cases herr
      · next lexeme after hok =>
        rw [hnext] at hok
        cases hok
        rw [hend]

end Lexeme

/-- A name that is no literal is a variable without filters. -/
theorem Reading.piped_name {name : String} (hliteral : wordLiteral? name = none) :
    piped [.word name] = .ok ((.path (.var name), []), []) := by
  have hoperand : operand [.word name] = .ok (.path (.var name), []) := by
    unfold operand
    rw [List.length_singleton, operandIn, hliteral]
    rfl
  unfold piped
  rw [hoperand]
  rfl

/-- The output that is a name stands for the variable of that name. -/
theorem Output.read_name {name : String} (h : Text.isDashedName name.toList = true)
    (hliteral : Reading.wordLiteral? name = none) :
    ∃ source, Output.read name = .ok ⟨source, .path (.var name), []⟩ := by
  have hwhole : Reading.whole Reading.piped name = .ok (.path (.var name), []) := by
    unfold Reading.whole
    rw [Lexeme.lex_name h, String.ofList_toList]
    simp only [bind, Except.bind, Reading.piped_name hliteral]
    rfl
  refine ⟨Text.trimmed name, ?_⟩
  unfold Output.read
  rw [hwhole]
  rfl

/-- What stands in front of the sign of an assignment is a name. -/
theorem isDashedName_of_splitAssignment? {args name expr : List Char}
    (h : splitAssignment? args = some (name, expr)) : Text.isDashedName name = true := by
  unfold splitAssignment? at h
  split at h
  · cases h
  · next c rest =>
    split at h
    · next hstart =>
      split at h
      · dsimp only at h
        split at h
        · cases h
        · cases h
          exact Bool.and_eq_true_iff.2 ⟨hstart, List.all_takeWhile⟩
      · cases h
    · cases h

/-- The variable that an assignment binds has a name. -/
theorem isDashedName_of_assignment {t : Token} {name : String} {value : Output}
    (h : assignment t = .ok (.assign name value)) : Text.isDashedName name.toList = true := by
  unfold assignment at h
  split at h
  · cases h
  · next chars expr hsplit =>
    obtain ⟨output, -, h⟩ := ok_of_bind_eq_ok h
    cases h
    rw [String.toList_ofList]
    exact isDashedName_of_splitAssignment? hsplit

end Stencil
