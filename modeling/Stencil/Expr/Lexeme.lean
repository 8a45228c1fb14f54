import Stencil.Text.Quoted
import Stencil.Number

/-!
# Lexemes

The units that expression text is made of.
-/

set_option autoImplicit false

namespace Stencil

/-- The marks of expression text. -/
inductive Punct where
  | range
  | equal
  | notEqual
  | lessOrGreater
  | lessEqual
  | greaterEqual
  | less
  | greater
  | bar
  | colon
  | comma
  | openParen
  | closeParen
  | openBracket
  | closeBracket
  | dot
deriving DecidableEq

/-- The characters of a mark. -/
def Punct.chars : Punct → List Char
  | range => ['.', '.']
  | equal => ['=', '=']
  | notEqual => ['!', '=']
  | lessOrGreater => ['<', '>']
  | lessEqual => ['<', '=']
  | greaterEqual => ['>', '=']
  | less => ['<']
  | greater => ['>']
  | bar => ['|']
  | colon => [':']
  | comma => [',']
  | openParen => ['(']
  | closeParen => [')']
  | openBracket => ['[']
  | closeBracket => [']']
  | dot => ['.']

/-- The text of a mark. -/
def Punct.text (p : Punct) : String :=
  String.ofList p.chars

/-- A unit of expression text. -/
inductive Lexeme where
  | string (s : String)
  | number (n : Number)
  | word (w : String)
  | punct (p : Punct)

/-- How a lexeme is shown in a message. -/
def Lexeme.text : Lexeme → String
  | string s => Text.quoted s
  | number n => n.text
  | word w => w
  | punct p => p.text

end Stencil
