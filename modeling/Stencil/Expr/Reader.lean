import Stencil.Expr.Lexer

/-!
# From lexemes to expressions

Each reader takes an expression of its kind from the front of a list of lexemes and answers it with
the lexemes left over.  Every expression has at least one lexeme, so the number of lexemes bounds
the depth of the recursion and the readers are called with that number.
-/

set_option autoImplicit false

namespace Stencil

namespace Reading

/-- Takes a given mark. -/
def expect (p : Punct) : List Lexeme → Except ExprFault (List Lexeme)
  | [] => .error (.expected p none)
  | .punct q :: rest => if p = q then .ok rest else .error (.expected p (some (.punct q)))
  | found :: _ => .error (.expected p (some found))

/-- Takes a word. -/
def name : List Lexeme → Except ExprFault (String × List Lexeme)
  | [] => .error (.expectedName none)
  | .word w :: rest => .ok (w, rest)
  | found :: _ => .error (.expectedName (some found))

/-- Fails when lexemes are left over. -/
def finish : List Lexeme → Except ExprFault Unit
  | [] => .ok ()
  | extra :: _ => .error (.unexpected extra)

/-- The literal that a word stands for, where it stands for one. -/
def wordLiteral? (w : String) : Option Value :=
  match w with
  | "true" => some (.bool true)
  | "false" => some (.bool false)
  | "nil" => some .null
  | "null" => some .null
  | _ => none

/-- The key that a number behind a dot stands for: the digits of a whole number that is not
negative. -/
def numberKey? (n : Number) : Option String :=
  n.unsigned64?.map Decimal.natText

mutual

/-- Takes an operand from at most `n` lexemes. -/
def operandIn : Nat → List Lexeme → Except ExprFault (Operand × List Lexeme)
  | _, [] => .error .expectedValue
  | 0, _ :: _ => .error .expectedValue
  | _ + 1, .string s :: rest => .ok (.literal (.string s), rest)
  | _ + 1, .number m :: rest => .ok (.literal (.number m), rest)
  | n + 1, .word w :: rest =>
    match wordLiteral? w with
    | some v => .ok (.literal v, rest)
    | none => stepsIn n (.var w) rest
  | n + 1, .punct .openParen :: rest => do
    let (first, rest) ← operandIn n rest
    let rest ← expect .range rest
    let (last, rest) ← operandIn n rest
    let rest ← expect .closeParen rest
    return (.range first last, rest)
  | n + 1, .punct .openBracket :: rest => do
    let (key, rest) ← operandIn n rest
    let rest ← expect .closeBracket rest
    stepsIn n (.lookup key) rest
  | _ + 1, found :: _ => .error (.unexpected found)

/-- Takes the further steps of a path from at most `n` lexemes. -/
def stepsIn : Nat → Path → List Lexeme → Except ExprFault (Operand × List Lexeme)
  | 0, p, rest => .ok (.path p, rest)
  | n + 1, p, .punct .dot :: rest =>
    match rest with
    | [] => .error .expectedProperty
    | .word w :: rest => stepsIn n (.field p w) rest
    | .number m :: rest =>
      match numberKey? m with
      | some key => stepsIn n (.field p key) rest
      | none => .error (.unexpectedProperty (.number m))
    | found :: _ => .error (.unexpectedProperty found)
  | n + 1, p, .punct .openBracket :: rest => do
    let (key, rest) ← operandIn n rest
    let rest ← expect .closeBracket rest
    stepsIn n (.item p key) rest
  | _ + 1, p, rest => .ok (.path p, rest)

end

/-- Takes an operand. -/
def operand (ls : List Lexeme) : Except ExprFault (Operand × List Lexeme) :=
  operandIn ls.length ls

/-- Takes operands with commas between them from at most `n` lexemes. -/
def argumentsIn : Nat → List Lexeme → Except ExprFault (List Operand × List Lexeme)
  | 0, _ => .error .expectedValue
  | n + 1, ls => do
    let (first, rest) ← operand ls
    match rest with
    | .punct .comma :: rest => do
      let (more, rest) ← argumentsIn n rest
      return (first :: more, rest)
    | rest => return ([first], rest)

/-- Takes operands with commas between them. -/
def arguments (ls : List Lexeme) : Except ExprFault (List Operand × List Lexeme) :=
  argumentsIn (ls.length + 1) ls

/-- Takes the uses of filters from at most `n` lexemes. -/
def filtersIn : Nat → List Lexeme → Except ExprFault (List FilterCall × List Lexeme)
  | 0, ls => .ok ([], ls)
  | n + 1, .punct .bar :: rest => do
    let (filter, rest) ← name rest
    let (args, rest) ← match rest with
      | .punct .colon :: rest => arguments rest
      | rest => .ok ([], rest)
    let (more, rest) ← filtersIn n rest
    return (⟨filter, args⟩ :: more, rest)
  | _ + 1, ls => .ok ([], ls)

/-- Takes the uses of filters. -/
def filters (ls : List Lexeme) : Except ExprFault (List FilterCall × List Lexeme) :=
  filtersIn ls.length ls

/-- The comparison that a lexeme stands for. -/
def comparison? : Lexeme → Option Comparison
  | .punct .equal => some .equal
  | .punct .notEqual => some .notEqual
  | .punct .lessOrGreater => some .notEqual
  | .punct .less => some .less
  | .punct .greater => some .greater
  | .punct .lessEqual => some .lessEqual
  | .punct .greaterEqual => some .greaterEqual
  | .word w => if w = "contains" then some .contains else none
  | _ => none

/-- Takes an operand, or two with a comparison between them. -/
def clause (ls : List Lexeme) : Except ExprFault (Condition × List Lexeme) := do
  let (left, rest) ← operand ls
  match rest with
  | [] => return (.test left, [])
  | l :: after =>
    match comparison? l with
    | none => return (.test left, l :: after)
    | some comparison => do
      let (right, after) ← operand after
      return (.compare left comparison right, after)

/-- Takes a condition from at most `n` lexemes.  The connectives bind to the right, so that
`a or b and c` is `a or (b and c)`. -/
def conditionIn : Nat → List Lexeme → Except ExprFault (Condition × List Lexeme)
  | 0, ls => clause ls
  | n + 1, ls => do
    let (left, rest) ← clause ls
    match rest with
    | .word w :: after =>
      if w = "and" then do
        let (right, after) ← conditionIn n after
        return (.and left right, after)
      else if w = "or" then do
        let (right, after) ← conditionIn n after
        return (.or left right, after)
      else return (left, .word w :: after)
    | rest => return (left, rest)

/-- Takes a condition. -/
def condition (ls : List Lexeme) : Except ExprFault (Condition × List Lexeme) :=
  conditionIn ls.length ls

/-- Takes an operand and the filters behind it. -/
def piped (ls : List Lexeme) : Except ExprFault ((Operand × List FilterCall) × List Lexeme) := do
  let (operand, rest) ← operand ls
  let (filters, rest) ← filters rest
  return ((operand, filters), rest)

/-- The expression that a whole text is. -/
def whole {α : Type} (reader : List Lexeme → Except ExprFault (α × List Lexeme))
    (source : String) : Except ExprFault α := do
  let (result, rest) ← reader (← Lexeme.lex source.toList)
  finish rest
  return result

end Reading

/-- The operand that a text is. -/
def Operand.read (source : String) : Except ExprFault Operand :=
  Reading.whole Reading.operand source

/-- The condition that a text is. -/
def Condition.read (source : String) : Except ExprFault Condition :=
  Reading.whole Reading.condition source

/-- The output that a text is. -/
def Output.read (source : String) : Except ExprFault Output := do
  let (operand, filters) ← Reading.whole Reading.piped source
  return ⟨Text.trimmed source, operand, filters⟩

namespace ExprFault

/-- A fault of the expression in a token as an error about that token. -/
def inToken {α : Type} (t : Token) : Except ExprFault α → Except Error α
  | .ok a => .ok a
  | .error fault => .error (.atToken (.expression fault) t)

/-- A fault of an expression that stands in no token. -/
def alone {α : Type} : Except ExprFault α → Except Error α
  | .ok a => .ok a
  | .error fault => .error (.parse (.expression fault) none none)

end ExprFault

end Stencil
