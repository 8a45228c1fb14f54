import Stencil.Text.Ranges

/-!
# White space

The characters with the Unicode property White_Space, and trimming by them.
-/

set_option autoImplicit false

namespace Stencil.Text

/-- The code points with the property White_Space. -/
def blankRanges : List Range :=
  [(0x9, 0xD), (0x20, 0x20), (0x85, 0x85), (0xA0, 0xA0), (0x1680, 0x1680), (0x2000, 0x200A),
    (0x2028, 0x2029), (0x202F, 0x202F), (0x205F, 0x205F), (0x3000, 0x3000)]

/-- Whether a character is white space. -/
def isBlank (c : Char) : Bool :=
  inRanges blankRanges c.toNat

/-- The text without its leading white space. -/
def trimStart (cs : List Char) : List Char :=
  cs.dropWhile isBlank

/-- The longest beginning of a text whose last character fails the test. -/
def dropEndWhile (p : Char → Bool) (cs : List Char) : List Char :=
  (cs.reverse.dropWhile p).reverse

/-- The text without its trailing white space. -/
def trimEnd (cs : List Char) : List Char :=
  dropEndWhile isBlank cs

/-- The text without white space around it. -/
def trim (cs : List Char) : List Char :=
  trimEnd (trimStart cs)

/-- The string without white space around it. -/
def trimmed (s : String) : String :=
  String.ofList (trim s.toList)

end Stencil.Text
