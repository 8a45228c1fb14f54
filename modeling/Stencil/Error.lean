import Stencil.Token
import Stencil.Text.Tail
import Stencil.Expr.Lexeme
import Stencil.Expr.Basic

/-!
# Errors

Everything that can go wrong from the source of a template to its rendered text, as causes.  The
wording of every message is in this module.  The signal of a loop that is left early travels the
same way as an error and carries the text rendered before it.
-/

set_option autoImplicit false

namespace Stencil

/-- What is wrong with delimited source text. -/
inductive DelimiterFault where
  | unclosed (delimiter : Delimiter) (before : String)
  | badTag (raw : String)
  | emptyOutput (raw : String)

/-- What is wrong with expression text. -/
inductive ExprFault where
  | unterminatedString (rest : String)
  | badNumber (text : String)
  | unexpectedChar (c : Char) (rest : String)
  | expectedValue
  | unexpected (found : Lexeme)
  | expectedProperty
  | unexpectedProperty (found : Lexeme)
  | expected (punct : Punct) (found : Option Lexeme)
  | expectedName (found : Option Lexeme)

/-- What keeps tokens from forming a template. -/
inductive ParseFault where
  | expression (fault : ExprFault)
  | unknownTag (name : String)
  | unclosedTag (raw : String)
  | lateExtends
  | duplicateBlock (name : String)
  | circularLayout (name : String)
  | badTemplateName (text : String)
  | badVariableName (text : String)
  | badAssignment
  | missingIn
  | custom (message : String)

/-- What keeps an expression of a node from having a value. -/
inductive RenderFault where
  | badRangeBound (value : Value)
  | undefinedVariable (path : Path)
  | notACount (value : Value)
  | custom (message : String)

/-- Why a filter gave no value. -/
inductive FilterFault where
  | unknown
  | arity (min max got : Nat)
  | notANumber (value : Value)
  | notFinite (result : Float)
  | custom (message : String)

/-- A broken promise between the engine and the one who uses it. -/
inductive AssertionFault where
  | dataNotObject (data : Value)
  | noLayoutNamed
  | custom (message : String)

/-- What can be registered under a name. -/
inductive RegistryKind where
  | tag
  | filter

/-- Why a name was not registered. -/
inductive RegistrationFault where
  | badName (kind : RegistryKind) (name : String)
  | taken (kind : RegistryKind) (name : String)

/-- The two ways to leave a round of a loop early. -/
inductive LoopControl where
  | break
  | continue
deriving DecidableEq

/-- An outcome other than a result. -/
inductive Error where
  | tokenization (fault : DelimiterFault) (position : Position)
  /-- `near` is the source text of the token that the error is about. -/
  | parse (fault : ParseFault) (near : Option String) (position : Option Position)
  | render (fault : RenderFault) (position : Option Position)
  /-- A loop is left early; `output` is the text rendered before that. -/
  | interrupt (control : LoopControl) (output : String)
  | assertion (fault : AssertionFault)
  | notFound (name : String)
  | filter (name : String) (fault : FilterFault)
  | registration (fault : RegistrationFault)
  /-- Templates include each other, or blocks hold each other, more deeply than the bound set. -/
  | tooDeep

/-- The wording of a delimiter fault. -/
def DelimiterFault.message : DelimiterFault → String
  | unclosed delimiter before =>
    String.ofList delimiter.opener ++ " not closed near \"" ++ Text.shown before ++ "\""
  | badTag raw => "illegal tag syntax near \"" ++ Text.shown raw ++ "\""
  | emptyOutput raw => "empty output near \"" ++ Text.shown raw ++ "\""

/-- The wording of an expression fault. -/
def ExprFault.message : ExprFault → String
  | unterminatedString rest => "unterminated string near " ++ Text.shown rest
  | badNumber text => "invalid number " ++ text
  | unexpectedChar c rest =>
    "unexpected character " ++ Text.quotedChar c ++ " near " ++ Text.shown rest
  | expectedValue => "expected a value"
  | unexpected found => "unexpected " ++ found.text
  | expectedProperty => "expected a property after ."
  | unexpectedProperty found => "unexpected " ++ found.text ++ " after ."
  | expected punct none => "expected " ++ punct.text
  | expected punct (some found) => "expected " ++ punct.text ++ " but found " ++ found.text
  | expectedName none => "expected a name"
  | expectedName (some found) => "expected a name but found " ++ found.text

/-- The wording of a parse fault. -/
def ParseFault.message : ParseFault → String
  | expression fault => fault.message
  | unknownTag name => "tag " ++ name ++ " not found"
  | unclosedTag raw => "tag " ++ raw ++ " not closed"
  | lateExtends => "tag extends must be the first token of a template"
  | duplicateBlock name => "block " ++ name ++ " defined twice"
  | circularLayout name => "circular extends of " ++ name
  | badTemplateName text => "illegal template name " ++ Text.quoted text
  | badVariableName text => "illegal name " ++ Text.quoted text
  | badAssignment => "illegal assignment"
  | missingIn => "expected in"
  | custom message => message

/-- The wording of a render fault. -/
def RenderFault.message : RenderFault → String
  | badRangeBound (.string s) => "invalid range bound " ++ Text.quoted s
  | badRangeBound value => "invalid range bound " ++ Json.text value
  | undefinedVariable path => "undefined variable: " ++ path.text
  | notACount value => "expected a number, got " ++ Json.text value
  | custom message => message

/-- The text of a floating point number that is not finite. -/
def notFiniteText (x : Float) : String :=
  if x.isNaN then "NaN" else if x < 0 then "-inf" else "inf"

/-- The wording of a filter fault. -/
def FilterFault.message : FilterFault → String
  | unknown => "undefined filter"
  | arity min max got =>
    "expected " ++ Decimal.natText min ++ "..=" ++ Decimal.natText max ++ " arguments, got " ++
      Decimal.natText got
  | notANumber value => Json.text value ++ " is not a number"
  | notFinite result => notFiniteText result ++ " is not a finite number"
  | custom message => message

/-- The wording of a broken promise. -/
def AssertionFault.message : AssertionFault → String
  | dataNotObject data => "render data must be an object, got " ++ Json.text data
  | noLayoutNamed => "extends tag names no layout"
  | custom message => message

/-- The word for a kind of registry. -/
def RegistryKind.text : RegistryKind → String
  | tag => "tag"
  | filter => "filter"

/-- The wording of a refused registration. -/
def RegistrationFault.message : RegistrationFault → String
  | badName kind name => kind.text ++ " " ++ Text.quoted name ++ ": invalid name"
  | taken kind name => kind.text ++ " " ++ name ++ ": already registered"

/-- The word for a way to leave a loop. -/
def LoopControl.text : LoopControl → String
  | .break => "break"
  | .continue => "continue"

/-- A position as messages show it. -/
def Position.text (p : Position) : String :=
  "line " ++ Decimal.natText p.line ++ ", col " ++ Decimal.natText p.column

/-- The part of a message that tells the place, where it is known. -/
def located : Option Position → String
  | none => ""
  | some p => ", " ++ p.text

namespace Error

/-- A parse error about a token. -/
def atToken (fault : ParseFault) (t : Token) : Error :=
  parse fault (some t.raw) (some t.position)

/-- The error for a tag that is never closed. -/
def unclosedTag (t : Token) : Error :=
  parse (.unclosedTag t.raw) none (some t.position)

/-- Gives a place to an error that lacks one. -/
def orAt (e : Error) (p : Position) : Error :=
  match e with
  | render fault none => render fault (some p)
  | parse fault near none => parse fault near (some p)
  | e => e

/-- The wording of an error. -/
def message : Error → String
  | tokenization fault position => fault.message ++ ", " ++ position.text
  | parse fault none position => fault.message ++ located position
  | parse fault (some raw) position =>
    fault.message ++ " near \"" ++ Text.shown raw ++ "\"" ++ located position
  | render fault position => fault.message ++ located position
  | interrupt control _ => control.text ++ " used outside of a loop"
  | assertion fault => "assertion failed: " ++ fault.message
  | notFound name => "template " ++ name ++ " not found"
  | filter name fault => "filter " ++ name ++ ": " ++ fault.message
  | registration fault => "cannot register " ++ fault.message
  | tooDeep => "nested too deeply"

end Error

end Stencil
