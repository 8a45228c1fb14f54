import Stencil.Value
import Stencil.Number.Reading

/-!
# Reading JSON

A reader of JSON text into values.  An integer that fits 64 bits, with a sign or without, stays a
whole number; every other number, and the integer minus zero, is a floating point number.  Of two
entries of one key the later one counts.
-/

set_option autoImplicit false

namespace Stencil.Json

/-- Whether a character may stand between the parts of a JSON text. -/
def isGap (c : Char) : Bool :=
  c == ' ' || c == '\t' || c == '\n' || c == '\r'

/-- The value of a hexadecimal digit. -/
def hexValue? (c : Char) : Option Nat :=
  if '0' ≤ c ∧ c ≤ '9' then some (c.toNat - '0'.toNat)
  else if 'a' ≤ c ∧ c ≤ 'f' then some (c.toNat - 'a'.toNat + 10)
  else if 'A' ≤ c ∧ c ≤ 'F' then some (c.toNat - 'A'.toNat + 10)
  else none

/-- The value of four hexadecimal digits. -/
def unit? (a b c d : Char) : Option Nat := do
  let a ← hexValue? a
  let b ← hexValue? b
  let c ← hexValue? c
  let d ← hexValue? d
  return ((a * 16 + b) * 16 + c) * 16 + d

/-- The character of an escape of one letter. -/
def shortEscape? (c : Char) : Option Char :=
  match c with
  | '"' => some '"'
  | '\\' => some '\\'
  | '/' => some '/'
  | 'b' => some '\x08'
  | 'f' => some '\x0c'
  | 'n' => some '\n'
  | 'r' => some '\r'
  | 't' => some '\t'
  | _ => none

/-- Reads a string behind its opening quote: the characters in it and what follows the closing
quote.  `high` holds the first half of a pair of surrogates. -/
def readString : List Char → Option Nat → List Char → Option (List Char × List Char)
  | '"' :: rest, none, done => some (done.reverse, rest)
  | '\\' :: 'u' :: a :: b :: c :: d :: rest, high, done =>
    match unit? a b c d, high with
    | none, _ => none
    | some n, none =>
      if 0xD800 ≤ n ∧ n < 0xDC00 then readString rest (some n) done
      else if 0xDC00 ≤ n ∧ n < 0xE000 then none
      else readString rest none (Char.ofNat n :: done)
    | some n, some h =>
      if 0xDC00 ≤ n ∧ n < 0xE000 then
        readString rest none (Char.ofNat (0x10000 + (h - 0xD800) * 0x400 + (n - 0xDC00)) :: done)
      else none
  | '\\' :: c :: rest, none, done =>
    match shortEscape? c with
    | some c => readString rest none (c :: done)
    | none => none
  | c :: rest, none, done => if c < ' ' then none else readString rest none (c :: done)
  | _, _, _ => none

/-- The value of a number without its sign, given its digits before and behind the point and its
exponent. -/
def numberValue (negative : Bool) (whole : List Char) (fraction exponent : Option (List Char)) :
    Option Number :=
  match fraction, exponent with
  | none, none =>
    let n := Number.digitsValue whole
    let i : Int := if negative then -(n : Int) else n
    if negative && n == 0 then some (.float (-(Number.scientific 0 0)))
    else if Number.isSigned64 i || Number.isUnsigned64 i then some (.int i)
    else some (.float (if negative then -(Number.scientific n 0) else Number.scientific n 0))
  | _, _ =>
    let digits := whole ++ fraction.getD []
    match Number.readInt? (exponent.getD ['0']) with
    | none => none
    | some e =>
      let x := Number.scientific (Number.digitsValue digits) (e - (fraction.getD []).length)
      some (.float (if negative then -x else x))

/-- Reads a number at the beginning of a text. -/
def readNumber (cs : List Char) : Option (Number × List Char) :=
  let (negative, cs) := match cs with
    | '-' :: cs => (true, cs)
    | cs => (false, cs)
  let whole := cs.takeWhile Number.isDecimalDigit
  let rest := cs.dropWhile Number.isDecimalDigit
  let (fraction, rest) := match rest with
    | '.' :: rest => (some (rest.takeWhile Number.isDecimalDigit), rest.dropWhile Number.isDecimalDigit)
    | rest => (none, rest)
  let exponentRest (cs : List Char) : List Char × List Char :=
    match cs with
    | '-' :: cs => ('-' :: cs.takeWhile Number.isDecimalDigit, cs.dropWhile Number.isDecimalDigit)
    | '+' :: cs => ('+' :: cs.takeWhile Number.isDecimalDigit, cs.dropWhile Number.isDecimalDigit)
    | cs => (cs.takeWhile Number.isDecimalDigit, cs.dropWhile Number.isDecimalDigit)
  let (exponent, rest) := match rest with
    | 'e' :: rest => ((exponentRest rest).map some id)
    | 'E' :: rest => ((exponentRest rest).map some id)
    | rest => (none, rest)
  if whole.isEmpty || fraction == some [] then none
  else (numberValue negative whole fraction exponent).map fun n => (n, rest)

mutual

/-- Reads a value at the beginning of a text; the number bounds the length of the text. -/
def readValue : Nat → List Char → Option (Value × List Char)
  | 0, _ => none
  | n + 1, cs =>
    match cs.dropWhile isGap with
    | 'n' :: 'u' :: 'l' :: 'l' :: rest => some (.null, rest)
    | 't' :: 'r' :: 'u' :: 'e' :: rest => some (.bool true, rest)
    | 'f' :: 'a' :: 'l' :: 's' :: 'e' :: rest => some (.bool false, rest)
    | '"' :: rest => (readString rest none []).map fun (s, rest) => (.string (String.ofList s), rest)
    | '[' :: rest =>
      match rest.dropWhile isGap with
      | ']' :: rest => some (.array [], rest)
      | rest => (readItems n rest).map fun (items, rest) => (.array items, rest)
    | '\x7b' :: rest =>
      match rest.dropWhile isGap with
      | '\x7d' :: rest => some (.object [], rest)
      | rest => (readFields n rest).map fun (fields, rest) => (.ofFields fields, rest)
    | rest => (readNumber rest).map fun (n, rest) => (.number n, rest)

/-- Reads the items of a list and its closing bracket. -/
def readItems : Nat → List Char → Option (List Value × List Char)
  | 0, _ => none
  | n + 1, cs => do
    let (v, rest) ← readValue n cs
    match rest.dropWhile isGap with
    | ',' :: rest => (readItems n rest).map fun (vs, rest) => (v :: vs, rest)
    | ']' :: rest => some ([v], rest)
    | _ => none

/-- Reads the entries of an object and its closing brace. -/
def readFields : Nat → List Char → Option (List (String × Value) × List Char)
  | 0, _ => none
  | n + 1, cs =>
    match cs.dropWhile isGap with
    | '"' :: rest => do
      let (key, rest) ← readString rest none []
      match rest.dropWhile isGap with
      | ':' :: rest => do
        let (v, rest) ← readValue n rest
        let entry := (String.ofList key, v)
        match rest.dropWhile isGap with
        | ',' :: rest => (readFields n rest).map fun (es, rest) => (entry :: es, rest)
        | '\x7d' :: rest => some ([entry], rest)
        | _ => none
      | _ => none
    | _ => none

end

/-- The value that a whole JSON text stands for. -/
def read? (s : String) : Option Value :=
  let cs := s.toList
  match readValue (2 * cs.length + 1) cs with
  | some (v, rest) => if rest.all isGap then some v else none
  | none => none

end Stencil.Json
