import Stencil.Json.Writer
import Stencil.Tag.Kind
import Stencil.Expr.Reader

/-!
# Further tags

Tags that an engine has only under the names they are registered under.  All of them are read by
factories and rendered by scripts.
-/

set_option autoImplicit false

namespace Stencil

/-- The words of a text, between its white space. -/
def words (s : String) : List String :=
  ((s.toList.splitOnP Text.isBlank).filter (!·.isEmpty)).map String.ofList

/-- The text up to the first space, and the text behind it without white space around it. -/
def splitAtSpace? (s : String) : Option (String × String) :=
  match s.toList.dropWhile (· != ' ') with
  | [] => none
  | _ :: rest => some (String.ofList (s.toList.takeWhile (· != ' ')), String.ofList (Text.trim rest))

/-- The error that a failing tag asks for by its first word. -/
def requestedError (args : String) : Error :=
  let (kind, message) := (splitAtSpace? args).getD ("", args)
  match kind with
  | "parse" => .parse (.custom message) none none
  | "assert" => .assertion (.custom message)
  | "notfound" => .notFound message
  | _ => .render (.custom message) none

/-- The number of tokens and their source texts. -/
def verbatimText (claimed : List Token) : String :=
  Decimal.natText claimed.length ++ ":" ++ "|".intercalate (claimed.map Token.raw)

/-- The number of lines of a text. -/
def lineCountText (text : String) : String :=
  Decimal.natText (text.toList.count '\n' + 1)

namespace Answer

/-- Whether an answer is a tag of one of some names. -/
def isTagOf (names : List String) : Answer → Bool
  | token (some t) => names.any t.isTag
  | _ => false

/-- The places of the nodes between the tags of some names, from a place on. -/
def sectionsFrom (names : List String) (i : Nat) : List Answer → List (List Nat)
  | [] => [[]]
  | answer :: rest =>
    if answer.isTagOf names then [] :: sectionsFrom names (i + 1) rest
    else match answer with
      | node (.ok _) => (sectionsFrom names (i + 1) rest).modifyHead (i :: ·)
      | _ => sectionsFrom names (i + 1) rest

/-- The tokens that were taken. -/
def tokens (got : List Answer) : List Token :=
  got.filterMap fun
    | token next => next
    | node _ => none

end Answer

namespace Factory

/-- Fails with an error about the token of the tag. -/
def refuse (t : Token) (fault : ParseFault) : Move :=
  .fail (.atToken fault t)

/-- Makes a tag that stands alone. -/
def alone (made : Token → Except ParseFault Made) : Factory := fun t _ =>
  match made t with
  | .ok made => .done made
  | .error fault => refuse t fault

/-- Reads bodies up to a tag named `close`, each of them behind the first one begun by a tag named
`again`. -/
def bodies (again : List String) (close : String)
    (made : Token → Except ParseFault (List (List Nat) → Made)) : Factory := fun t got =>
  match made t with
  | .error fault => refuse t fault
  | .ok made =>
    match got.getLast? with
    | some (.token none) => .fail (.unclosedTag t)
    | some (.token (some u)) =>
      if u.isTag close then .done (made (Answer.sectionsFrom again 0 got))
      else if again.any u.isTag then .next
      else .node u
    | some (.node (.error e)) => .fail e
    | _ => .next

/-- Takes the tokens up to a tag named `close`. -/
def unread (close : String) (made : List Token → Made) : Factory := fun t got =>
  match got.getLast? with
  | some (.token none) => .fail (.unclosedTag t)
  | some (.token (some u)) => if u.isTag close then .done (made (Answer.tokens got).dropLast) else .next
  | _ => .next

/-- Takes the next token if that is a literal. -/
def literal (made : Option String → Made) : Factory := fun _ got =>
  match got with
  | [] => .peek
  | [.token (some u)] => if u.kind = .literal then .next else .done (made none)
  | _ => .done (made ((Answer.tokens got).head?.map Token.value))

end Factory

namespace Script

/-- Goes on with what a step gave, unless the step failed. -/
def orFail {α : Type} (k : α → Script) : Except Error α → Script
  | .ok x => k x
  | .error e => .fail e

/-- Takes the value of an operand. -/
def value (operand : Operand) (k : Value → Script) : Script :=
  .eval ⟨"", operand, []⟩ (orFail k)

/-- Renders a body and nothing else. -/
def onlyBody (i : Nat) : Script :=
  .body i (orFail .done)

/-- Renders the first body a number of times, behind a text. -/
def repeated : Nat → String → Script
  | 0, text => .done text
  | n + 1, text => .body 0 (orFail fun more => repeated n (text ++ more))

/-- Renders the body of a number, of a number of bodies. -/
def chosen (bodies : Nat) (number : Option Nat) : Script :=
  match number with
  | some n => if n < bodies then onlyBody n else .done "none"
  | none => .done "none"

end Script

/-- The operand that the arguments of a tag are. -/
def operandOf (t : Token) : Except ParseFault Operand :=
  (Operand.read t.args).mapError .expression

namespace Factory

/-- Renders its body a number of times. -/
def repetition : Factory := bodies [] "endrepeat" fun t => do
  let times ← operandOf t
  return .tag (.value times fun v => .repeated (v.unsigned64?.getD 0) "") none

/-- Claims the literal behind it and renders the number of its lines. -/
def lineCount : Factory := literal fun text =>
  .tag (.done ((text.map lineCountText).getD "0")) none []

/-- Binds a variable of the innermost frame to a word. -/
def binding : Factory := alone fun t =>
  match words t.args with
  | [name, value] => return .tag (.set name (.string value) (.done "")) none []
  | _ => throw (.custom "expected name and value")

/-- Renders its arguments. -/
def echo : Factory := alone fun t => return .tag (.done t.args) none []

/-- Names a layout by its arguments as they stand. -/
def bareLayout : Factory := alone fun t =>
  return .tag (.done "") (some (Text.trimmed t.args)) []

/-- A part of a layout whose text is not kept. -/
def region : Factory := bodies [] "endregion" fun t =>
  return fun sections => .block (.onlyBody 0) (Text.trimmed t.args) sections.flatten

/-- Adds an entry to a register and renders the register. -/
def note : Factory := alone fun t =>
  match splitAtSpace? t.args with
  | some (key, value) =>
    let shown : Script := .entries "notes" fun notes => .done (Json.text (.object notes))
    return .tag (.insert "notes" key (.string value) shown) none []
  | none => throw (.custom "expected key and value")

/-- Claims tokens up to its end and renders their number and their source texts. -/
def verbatim : Factory := unread "endverbatim" fun claimed =>
  .tag (.done (verbatimText claimed)) none []

/-- Chooses a body by its number. -/
def choice : Factory := bodies ["when"] "endcases" fun t => do
  let number ← operandOf t
  return fun sections =>
    .tag (.value number fun v => .chosen sections.length v.unsigned64?) none sections

/-- Fails. -/
def failure : Factory := alone fun t => return .tag (.fail (requestedError t.args)) none []

/-- The factory that a word names. -/
def ofWord? (w : String) : Option Factory :=
  match w with
  | "repeat" => some repetition
  | "lines" => some lineCount
  | "slow" => some binding
  | "echo" => some echo
  | "layout" => some bareLayout
  | "region" => some region
  | "note" => some note
  | "verbatim" => some verbatim
  | "cases" => some choice
  | "fail" => some failure
  | _ => none

end Factory

/-- The further kind of tag that a word names. -/
def TagKind.ofWord? (w : String) : Option TagKind :=
  (Factory.ofWord? w).map custom

end Stencil
