/-!
# The end of a text

Messages about a place in a source show the last part of the text up to it.
-/

set_option autoImplicit false

namespace Stencil.Text

/-- At most the given number of characters from the end of a text. -/
def lastChars (n : Nat) (cs : List Char) : List Char :=
  cs.drop (cs.length - n)

/-- The part of a text that a message shows: its last 32 characters. -/
def shown (s : String) : String :=
  String.ofList (lastChars 32 s.toList)

end Stencil.Text
