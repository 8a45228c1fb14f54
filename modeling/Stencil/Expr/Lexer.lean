import Stencil.Error
import Stencil.Number.Reading
import Stencil.Text.Word

/-!
# From expression text to lexemes

Each lexeme is the longest text of its class at its place, and white space between lexemes counts
for nothing.
-/

set_option autoImplicit false

namespace Stencil.Lexeme

/-- The marks in the order in which they are tried: a mark comes before the marks it begins with. -/
def punctuation : List Punct :=
  [.range, .equal, .notEqual, .lessOrGreater, .lessEqual, .greaterEqual, .less, .greater, .bar,
    .colon, .comma, .openParen, .closeParen, .openBracket, .closeBracket, .dot]

/-- What is taken off a text as a number behind a sign that was read: digits, and an optional point
with digits behind it. -/
def splitUnsigned? (sign body : List Char) : Option (List Char × List Char) :=
  if (body.takeWhile Text.isDigit).isEmpty then none
  else match body.dropWhile Text.isDigit with
    | '.' :: tail =>
      if (tail.takeWhile Text.isDigit).isEmpty then
        some (sign ++ body.takeWhile Text.isDigit, '.' :: tail)
      else
        some (sign ++ body.takeWhile Text.isDigit ++ '.' :: tail.takeWhile Text.isDigit,
          tail.dropWhile Text.isDigit)
    | tail => some (sign ++ body.takeWhile Text.isDigit, tail)

/-- The text of a number at the beginning of a text, and what follows it: an optional minus sign,
digits, and an optional point with digits behind it. -/
def splitNumber? : List Char → Option (List Char × List Char)
  | '-' :: body => splitUnsigned? ['-'] body
  | body => splitUnsigned? [] body

/-- The number that a text stands for: with a point a finite floating point number, and without one
a signed 64-bit integer. -/
def number? (cs : List Char) : Option Number :=
  if cs.contains '.' then (Number.readFloat? cs).map .float else (Number.readSigned64? cs).map .int

/-- The word that begins with a character, and what follows it: word characters and dashes, and at
most one question mark at the end. -/
def splitWord (c : Char) (rest : List Char) : List Char × List Char :=
  let name := c :: rest.takeWhile Text.isNameRest
  match rest.dropWhile Text.isNameRest with
  | '?' :: tail => (name ++ ['?'], tail)
  | tail => (name, tail)

/-- The first of some marks that a text begins with. -/
def findPunct? (cs : List Char) : Option Punct :=
  punctuation.find? fun p => p.chars.isPrefixOf cs

/-- The lexeme at the beginning of a text that begins with `c`, and what follows it. -/
def next (c : Char) (rest : List Char) : Except ExprFault (Lexeme × List Char) :=
  if c = '"' ∨ c = '\'' then
    match rest.dropWhile (· != c) with
    | [] => .error (.unterminatedString (String.ofList (c :: rest)))
    | _ :: after => .ok (.string (String.ofList (rest.takeWhile (· != c))), after)
  else
    match splitNumber? (c :: rest) with
    | some (text, after) =>
      match number? text with
      | some n => .ok (.number n, after)
      | none => .error (.badNumber (String.ofList text))
    | none =>
      if Text.isNameStart c then .ok (.word (String.ofList (splitWord c rest).1), (splitWord c rest).2)
      else match findPunct? (c :: rest) with
        | some p => .ok (.punct p, rest.drop (p.chars.length - 1))
        | none => .error (.unexpectedChar c (String.ofList (c :: rest)))

/-- Dropping characters from the front makes a text no longer. -/
theorem length_dropWhile_le (p : Char → Bool) (cs : List Char) : (cs.dropWhile p).length ≤ cs.length :=
  (List.dropWhile_suffix p).length_le

/-- Dropping characters that are there makes a text shorter. -/
theorem length_dropWhile_lt {p : Char → Bool} {cs : List Char}
    (h : (cs.takeWhile p).isEmpty = false) : (cs.dropWhile p).length < cs.length := by
  have hlength : (cs.takeWhile p).length + (cs.dropWhile p).length = cs.length := by
    rw [← List.length_append, List.takeWhile_append_dropWhile]
  have hpos : 0 < (cs.takeWhile p).length :=
    List.length_pos_iff.2 (List.isEmpty_eq_false_iff.1 h)
  omega

/-- What follows a number without its sign is shorter than the whole. -/
theorem length_of_splitUnsigned? {sign body text after : List Char}
    (h : splitUnsigned? sign body = some (text, after)) : after.length < body.length := by
  unfold splitUnsigned? at h
  split at h
  · cases h
  · next hdigits =>
    have hbehind : (body.dropWhile Text.isDigit).length < body.length :=
      length_dropWhile_lt (Bool.eq_false_iff.2 hdigits)
    split at h
    · next tail hpoint =>
      rw [hpoint] at hbehind
      split at h
      · cases h
        exact hbehind
      · cases h
        have hfraction : (tail.dropWhile Text.isDigit).length ≤ tail.length :=
          length_dropWhile_le Text.isDigit tail
        exact Nat.lt_of_le_of_lt hfraction (Nat.lt_of_succ_lt hbehind)
    · cases h
      exact hbehind

/-- What follows a number is shorter than the whole. -/
theorem length_of_splitNumber? {cs text after : List Char}
    (h : splitNumber? cs = some (text, after)) : after.length < cs.length := by
  unfold splitNumber? at h
  split at h
  · exact Nat.lt_succ_of_lt (length_of_splitUnsigned? h)
  · exact length_of_splitUnsigned? h

/-- What follows a word is no longer than what follows its first character. -/
theorem length_splitWord_le (c : Char) (rest : List Char) :
    (splitWord c rest).2.length ≤ rest.length := by
  have hbehind : (rest.dropWhile Text.isNameRest).length ≤ rest.length :=
    length_dropWhile_le Text.isNameRest rest
  unfold splitWord
  dsimp only
  split
  · next tail hmark =>
    rw [hmark] at hbehind
    exact Nat.le_of_succ_le hbehind
  · exact hbehind

/-- What follows a lexeme is no longer than what follows its first character. -/
theorem length_of_next {c : Char} {rest after : List Char} {l : Lexeme}
    (h : next c rest = .ok (l, after)) : after.length ≤ rest.length := by
  unfold next at h
  split at h
  · -- a string, which a second quote ends
    split at h
    · cases h
    · next quote behind hquote =>
      cases h
      have hbehind := length_dropWhile_le (· != c) rest
      rw [hquote] at hbehind
      exact Nat.le_of_succ_le hbehind
  · split at h
    · next text behind hnumber =>
      split at h
      · cases h
        exact Nat.le_of_lt_succ (length_of_splitNumber? hnumber)
      · cases h
    · split at h
      · cases h
        exact length_splitWord_le c rest
      · split at h
        · cases h
          rw [List.length_drop]
          exact Nat.sub_le ..
        · cases h

/-- The lexemes of an expression text. -/
def lex (cs : List Char) : Except ExprFault (List Lexeme) :=
  match _h : Text.trimStart cs with
  | [] => .ok []
  | c :: rest =>
    match _h' : next c rest with
    | .error e => .error e
    | .ok (lexeme, after) =>
      match lex after with
      | .error e => .error e
      | .ok lexemes => .ok (lexeme :: lexemes)
termination_by cs.length
decreasing_by
  have h1 := length_dropWhile_le Text.isBlank cs
  have h2 := length_of_next _h'
  unfold Text.trimStart at _h
  rw [_h, List.length_cons] at h1
  omega

end Stencil.Lexeme
