import Stencil.Text.Blank

/-!
# Tokens

A template source is a sequence of literal text, outputs and tags.  A token keeps its complete
source text, the place where it begins and, for a tag, its name and its unread arguments.
-/

set_option autoImplicit false

namespace Stencil

/-- A place in a source: the bytes before it, its line and its column in characters, both from one. -/
structure Position where
  offset : Nat := 0
  line : Nat := 0
  column : Nat := 0
deriving DecidableEq

namespace Position

/-- The first place of a source. -/
def start : Position :=
  ⟨0, 1, 1⟩

/-- The place behind one character. -/
def next (p : Position) (c : Char) : Position :=
  if c = '\n' then ⟨p.offset + c.utf8Size, p.line + 1, 1⟩
  else ⟨p.offset + c.utf8Size, p.line, p.column + 1⟩

/-- The place behind a text. -/
def advance (p : Position) (cs : List Char) : Position :=
  cs.foldl next p

end Position

/-- The two kinds of delimited source text. -/
inductive Delimiter where
  | output
  | tag
deriving DecidableEq

/-- The characters that open a delimited text. -/
def Delimiter.opener : Delimiter → List Char
  | output => ['\x7b', '\x7b']
  | tag => ['\x7b', '%']

/-- The characters that close a delimited text. -/
def Delimiter.closer : Delimiter → List Char
  | output => ['\x7d', '\x7d']
  | tag => ['%', '\x7d']

/-- The kinds of tokens. -/
inductive TokenKind where
  | literal
  | tag
  | output
deriving DecidableEq

/-- A piece of a template source. -/
structure Token where
  kind : TokenKind
  /-- The name of a tag. -/
  name : String := ""
  /-- The unread arguments of a tag. -/
  args : String := ""
  /-- The literal text after trimming, the expression of an output or the whole content of a tag. -/
  value : String
  /-- The complete source text with its delimiters. -/
  raw : String
  position : Position
  /-- Whether the token asks to trim the literal before it. -/
  trimLeft : Bool := false
  /-- Whether the token asks to trim the literal behind it. -/
  trimRight : Bool := false

namespace Token

/-- A literal token. -/
def literal (text : String) (position : Position) : Token :=
  { kind := .literal, value := text, raw := text, position := position }

/-- Whether the token is the tag of the given name. -/
def isTag (t : Token) (name : String) : Bool :=
  t.kind = .tag && t.name == name

end Token

end Stencil
