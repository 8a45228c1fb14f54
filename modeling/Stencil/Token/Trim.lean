import Stencil.Token.Scan

/-!
# Trimming literals

A trim mark of an output or a tag removes white space from the literal next to it.  Marks count
except strictly between a tag `raw` and the next tag `endraw`.
-/

set_option autoImplicit false

namespace Stencil.Token

/-- The blanks that are removed within a line. -/
def isInlineBlank (c : Char) : Bool :=
  c == '\t' || c == '\r' || c == ' '

/-- Removes the white space at the beginning of a text: all of it, or the blanks of the line and its
end. -/
def trimHead (greedy : Bool) (cs : List Char) : List Char :=
  if greedy then Text.trimStart cs
  else match cs.dropWhile isInlineBlank with
    | '\n' :: rest => rest
    | rest => rest

/-- Removes the white space at the end of a text: all of it, or the blanks of the line. -/
def trimTail (greedy : Bool) (cs : List Char) : List Char :=
  if greedy then Text.trimEnd cs else Text.dropEndWhile isInlineBlank cs

/-- The literal with its value trimmed at the sides that are asked for. -/
def trimLiteral (greedy head tail : Bool) (t : Token) : Token :=
  let cs := t.value.toList
  let cs := if head then trimHead greedy cs else cs
  let cs := if tail then trimTail greedy cs else cs
  { t with value := String.ofList cs }

/-- Whether the marks of a token are ignored, when `inRaw` tells whether the token before it left a
raw text open. -/
def isSuspended (inRaw : Bool) (t : Token) : Bool :=
  inRaw && !t.isTag "endraw"

/-- Whether a raw text is open behind a token. -/
def leavesRaw (inRaw : Bool) (t : Token) : Bool :=
  isSuspended inRaw t || t.isTag "raw"

/-- Whether the first of some tokens trims the literal before it. -/
def headTrims (inRaw : Bool) : List Token → Bool
  | [] => false
  | t :: _ => t.trimLeft && !isSuspended inRaw t

/-- Trims the literals of some tokens; `head` tells whether the token before them trims to its
right. -/
def trimFrom (greedy inRaw head : Bool) : List Token → List Token
  | [] => []
  | t :: rest =>
    let inside := leavesRaw inRaw t
    let trimmed := if t.kind = .literal then trimLiteral greedy head (headTrims inside rest) t else t
    trimmed :: trimFrom greedy inside (t.trimRight && !isSuspended inRaw t) rest

end Stencil.Token

namespace Stencil

/-- The tokens of a source. -/
def tokenize (options : Options) (source : String) : Except Error (List Token) :=
  (Token.scan options source.toList).map (Token.trimFrom options.greedy false false)

end Stencil
