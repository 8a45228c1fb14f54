import Stencil.Tag.Kind
import Stencil.Expr.Reader

/-!
# Reading the arguments of tags

Each kind of tag reads its head from its token and from the tokens it claimed unread.
-/

set_option autoImplicit false

namespace Stencil

/-- A character of a template name that stands without quotes. -/
def isTemplateNameChar (c : Char) : Bool :=
  Text.isWord c || c == '.' || c == '/' || c == '-'

/-- The template that a tag names: a quoted text that is not empty, or a bare name. -/
def templateName (t : Token) : Except Error String :=
  let args := Text.trimmed t.args
  let bare : Except Error String :=
    if !args.isEmpty && args.toList.all isTemplateNameChar then .ok args
    else .error (.atToken (.badTemplateName args) t)
  match Operand.read args with
  | .ok (.literal (.string name)) => if name.isEmpty then bare else .ok name
  | _ => bare

/-- The text without the quotes around it. -/
def unquoted (cs : List Char) : List Char :=
  let isQuote (c : Char) : Bool := c == '"' || c == '\''
  Text.dropEndWhile isQuote (cs.dropWhile isQuote)

/-- The variable that a tag names, quoted or not. -/
def variableName (t : Token) : Except Error String :=
  let args := Text.trim t.args.toList
  let name := unquoted args
  if Text.isDashedName name then .ok (String.ofList name)
  else .error (.atToken (.badVariableName (String.ofList args)) t)

/-- The name of a block: the first word of its arguments. -/
def blockName (t : Token) : String :=
  let word := (t.args.toList.dropWhile (!Text.isWord ·)).takeWhile Text.isWord
  if word.isEmpty then "anonymous" else String.ofList word

/-- The name and the expression of an assignment, around its equals sign. -/
def splitAssignment? (args : List Char) : Option (List Char × List Char) :=
  match args with
  | [] => none
  | c :: rest =>
    if Text.isNameStart c then
      match Text.trimStart (rest.dropWhile Text.isNameRest) with
      | '=' :: expr =>
        let expr := Text.trimStart expr
        if expr.isEmpty then none else some (c :: rest.takeWhile Text.isNameRest, expr)
      | _ => none
    else none

/-- The head of an assignment. -/
def assignment (t : Token) : Except Error Head :=
  match splitAssignment? (Text.trim t.args.toList) with
  | none => .error (.atToken .badAssignment t)
  | some (name, expr) => do
    let value ← ExprFault.inToken t (Output.read (String.ofList expr))
    return .assign (String.ofList name) value

/-- Takes the modifiers of a loop from at most `n` lexemes, in any order; of two modifiers of one
name the later one counts. -/
def modifiersIn : Nat → Loop → List Lexeme → Except ExprFault Loop
  | _, loop, [] => .ok loop
  | 0, _, found :: _ => .error (.unexpected found)
  | n + 1, loop, .word w :: rest =>
    if w = "reversed" then modifiersIn n { loop with reversed := true } rest
    else if w = "limit" then do
      let (limit, rest) ← Reading.operand (← Reading.expect .colon rest)
      modifiersIn n { loop with limit := some limit } rest
    else if w = "offset" then do
      let (offset, rest) ← Reading.operand (← Reading.expect .colon rest)
      modifiersIn n { loop with offset := some offset } rest
    else .error (.unexpected (.word w))
  | _ + 1, _, found :: _ => .error (.unexpected found)

/-- The head of a loop: a variable, the word `in`, a collection and modifiers. -/
def loopHead (t : Token) : Except Error Head := do
  let lexemes ← ExprFault.inToken t (Lexeme.lex t.args.toList)
  let (var, rest) ← ExprFault.inToken t (Reading.name lexemes)
  match rest with
  | .word "in" :: rest => do
    let (collection, rest) ← ExprFault.inToken t (Reading.operand rest)
    let loop ← ExprFault.inToken t (modifiersIn rest.length { var := var, collection := collection } rest)
    return .loop loop
  | _ => throw (.atToken .missingIn t)

/-- Takes the parameters of an inclusion from at most `n` lexemes, each behind a comma. -/
def paramsIn : Nat → List Lexeme → Except ExprFault (List (String × Operand))
  | _, [] => .ok []
  | n + 1, .punct .comma :: rest => do
    let (key, rest) ← Reading.name rest
    let (value, rest) ← Reading.operand (← Reading.expect .colon rest)
    return (key, value) :: (← paramsIn n rest)
  | _, found :: _ => .error (.unexpected found)

/-- The head of an inclusion: an operand for the name of the template, and parameters. -/
def inclusionHead (t : Token) : Except Error Head :=
  ExprFault.inToken t do
    let (name, rest) ← Reading.operand (← Lexeme.lex t.args.toList)
    return .inclusion name (← paramsIn rest.length rest)

/-- The source text of tokens between raw tags: trimmed literals, and everything else as written. -/
def rawText (claimed : List Token) : String :=
  String.join (claimed.map fun t => if t.kind = .literal then t.value else t.raw)

/-- The head of a tag, read from its token and the tokens it claimed unread.  A factory reads its tag
without that. -/
def TagKind.head (kind : TagKind) (t : Token) (claimed : List Token) : Except Error Head :=
  match kind with
  | layout => return .layout (← templateName t)
  | block => return .block (blockName t)
  | assign => assignment t
  | capture => return .capture (← variableName t)
  | conditional => return .conditional [← ExprFault.inToken t (Condition.read t.args)]
  | negated => return .negated (← ExprFault.inToken t (Condition.read t.args))
  | loop => loopHead t
  | signal control => return .signal control
  | raw => return .text (rawText claimed)
  | comment => return .text ""
  | inclusion => inclusionHead t
  | custom _ => return .text ""

/-- The head of a tag after a tag that begins a further body: a conditional takes its condition. -/
def Head.again (head : Head) (t : Token) : Except Error Head :=
  match head with
  | conditional conditions =>
    return .conditional (conditions ++ [← ExprFault.inToken t (Condition.read t.args)])
  | head => return head

end Stencil
