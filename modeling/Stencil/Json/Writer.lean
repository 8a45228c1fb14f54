import Stencil.Value

/-!
# Writing JSON

Values are written compactly, objects by increasing key.  A string escapes the quote, the backslash
and the characters below the space, and nothing else.
-/

set_option autoImplicit false

namespace Stencil.Json

/-- The four hexadecimal digits of a number below 65536. -/
def fourHex (n : Nat) : List Char :=
  let digits := Nat.toDigits 16 n
  List.replicate (4 - digits.length) '0' ++ digits

/-- The written form of one character inside a string. -/
def escape (c : Char) : List Char :=
  if c = '"' ∨ c = '\\' then ['\\', c]
  else if c = '\x08' then ['\\', 'b']
  else if c = '\x0c' then ['\\', 'f']
  else if c = '\n' then ['\\', 'n']
  else if c = '\r' then ['\\', 'r']
  else if c = '\t' then ['\\', 't']
  else if c < ' ' then ['\\', 'u'] ++ fourHex c.toNat
  else [c]

/-- A string between its quotes. -/
def string (s : String) : String :=
  String.ofList ('"' :: s.toList.flatMap escape ++ ['"'])

mutual

/-- The JSON text of a value. -/
def text : Value → String
  | .null => "null"
  | .bool true => "true"
  | .bool false => "false"
  | .number n => n.text
  | .string s => string s
  | .array items => "[" ++ ",".intercalate (itemTexts items) ++ "]"
  | .object fields => "\x7b" ++ ",".intercalate (fieldTexts fields) ++ "\x7d"

/-- The JSON texts of the items of a list. -/
def itemTexts : List Value → List String
  | [] => []
  | v :: rest => text v :: itemTexts rest

/-- The JSON texts of the entries of an object. -/
def fieldTexts : List (String × Value) → List String
  | [] => []
  | (k, v) :: rest => (string k ++ ":" ++ text v) :: fieldTexts rest

end

end Stencil.Json
