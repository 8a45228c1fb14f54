import Stencil.Output
import Stencil.Store

/-!
# Rendering

Nodes are rendered one after the other, each in the scope that the one before it left.  Whatever the
outcome, the changes made to the scope and to the store remain.  A signal that leaves a round of a
loop passes outwards with the text rendered before it.
-/

set_option autoImplicit false

namespace Stencil

/-- What rendering changes. -/
structure Rendering where
  scope : Scope
  store : Store := {}

/-- An action of rendering, which may fail and keeps its changes either way. -/
abbrev Render := ExceptT Error (StateM Rendering)

namespace Render

/-- The value of an expression in the scope. -/
def eval {α : Type} (f : Scope → Except Error α) : Render α := do
  let s ← get
  ExceptT.mk (pure (f s.scope))

/-- Changes the scope. -/
def modifyScope (f : Scope → Scope) : Render Unit :=
  modify fun s => { s with scope := f s.scope }

/-- Uses the store. -/
def load {α : Type} (action : Loading α) : Render α :=
  ExceptT.mk fun s =>
    let (r, store) := action.run.run s.store
    (r, { s with store := store })

/-- Renders within a further frame, which is removed whatever the outcome. -/
def within {α : Type} (frame : Dict Value) (action : Render α) : Render α :=
  ExceptT.mk fun s =>
    let (r, s) := action.run.run { s with scope := s.scope.push frame }
    (r, { s with scope := s.scope.pop })

/-- Gives a place to an error that lacks one. -/
def located {α : Type} (p : Position) (action : Render α) : Render α :=
  ExceptT.mk do return (← action.run).mapError (Error.orAt · p)

/-- Puts a text in front of the text of an action, and of the text that a signal carries. -/
def after (text : String) (action : Render String) : Render String :=
  ExceptT.mk do
    match ← action.run with
    | .ok more => return .ok (text ++ more)
    | .error (.interrupt control more) => return .error (.interrupt control (text ++ more))
    | .error e => return .error e

/-- The text of a round of a loop, and whether the loop goes on: a signal ends the round with the
text before it. -/
def round (action : Render String) : Render (String × Bool) :=
  ExceptT.mk do
    match ← action.run with
    | .ok text => return .ok (text, true)
    | .error (.interrupt control text) => return .ok (text, control == .continue)
    | .error e => return .error e

/-- The outcome of an action as a result. -/
def outcome {α : Type} (action : Render α) : Render (Except Error α) :=
  ExceptT.mk do return .ok (← action.run)

/-- The body at a place, or nothing. -/
def bodyAt (bodies : List (Render String)) (i : Nat) : Render String :=
  bodies[i]?.getD (return "")

/-- The body of the first condition that holds, the body behind those of all conditions if none
holds, and otherwise nothing. -/
def firstHolding : List Condition → List (Render String) → Render String
  | [], bodies => bodyAt bodies 0
  | _ :: _, [] => return ""
  | c :: conditions, body :: bodies => do
    if ← eval c.eval then body else firstHolding conditions bodies

/-- The register that holds the text of each block. -/
def blockRegister : String :=
  "blocks"

/-- Renders a block.  Its text is kept, and a block whose text was kept is not rendered again. -/
def block (name : String) (body : Render String) : Render String := do
  let s ← get
  match (Dict.find? name (s.scope.registerObject blockRegister)).bind Value.string? with
  | some text => return text
  | none =>
    let text ← body
    modifyScope fun scope => scope.insertInRegister blockRegister name (.string text)
    return text

end Render

namespace Loop

/-- The number that an operand of a loop gives: the whole part of a number, at least zero, and none
for null. -/
def count : Option Operand → Render (Option Nat)
  | none => return none
  | some operand => do
    match ← Render.eval operand.eval with
    | .number n => return some (Number.truncateUnsigned n.toFloat)
    | .null => return none
    | v => throw (.render (.notACount v) none)

/-- The items that a loop visits: without the first ones, cut to a limit, and then reversed. -/
def select (items : List Value) (offset : Nat) (limit : Option Nat) (reversed : Bool) : List Value :=
  let items := items.drop offset
  let items := match limit with
    | none => items
    | some limit => items.take limit
  if reversed then items.reverse else items

/-- The variable that tells a body where the loop is. -/
def state (index length : Nat) : Value :=
  .ofFields
    [("index", .ofNat (index + 1)), ("index0", .ofNat index), ("rindex", .ofNat (length - index)),
      ("rindex0", .ofNat (length - index - 1)), ("first", .bool (index == 0)),
      ("last", .bool (index + 1 == length)), ("length", .ofNat length)]

/-- Renders the rounds of a loop from an index on, up to one that breaks. -/
def rounds (var : String) (length : Nat) (body : Render String) : Nat → List Value → Render String
  | _, [] => return ""
  | index, item :: rest => do
    Render.modifyScope fun scope => (scope.set var item).set "forloop" (state index length)
    let (text, goesOn) ← Render.round body
    if goesOn then return text ++ (← rounds var length body (index + 1) rest)
    else return text

/-- Renders a loop: its first body for every item within one further frame, or its second body when
there are no items. -/
def render (loop : Loop) (bodies : List (Render String)) : Render String := do
  let items := (← Render.eval loop.collection.eval).items
  let offset ← count loop.offset
  let limit ← count loop.limit
  let items := select items (offset.getD 0) limit loop.reversed
  if items.isEmpty then Render.bodyAt bodies 1
  else Render.within [] (rounds loop.var items.length (Render.bodyAt bodies 0) 0 items)

end Loop

/-- The values of the parameters of an inclusion, of which a later one replaces an earlier one. -/
def paramFrame (params : List (String × Operand)) : Render (Dict Value) :=
  params.foldlM (fun frame p => return Dict.insert p.1 (← Render.eval p.2.eval) frame) []

/-- Follows a script, given how the bodies of its tag are rendered and how templates are found. -/
def Script.render (filters : Filters) (fetch : String → Render (Render String))
    (bodies : List (Render String)) : Script → Render String
  | done text => return text
  | fail e => throw e
  | eval output k => do
    (k (← Render.outcome (Render.eval fun scope => output.eval filters scope))).render
      filters fetch bodies
  | set name value k => do
    Render.modifyScope fun scope => scope.set name value
    k.render filters fetch bodies
  | setRoot name value k => do
    Render.modifyScope fun scope => scope.setRoot name value
    k.render filters fetch bodies
  | entries register k => do (k ((← get).scope.registerObject register)).render filters fetch bodies
  | insert register key value k => do
    Render.modifyScope fun scope => scope.insertInRegister register key value
    k.render filters fetch bodies
  | within frame inner k => do
    (k (← Render.outcome (Render.within frame (inner.render filters fetch bodies)))).render
      filters fetch bodies
  | body i k => do (k (← Render.outcome (Render.bodyAt bodies i))).render filters fetch bodies
  | inclusion name k => do (k (← Render.outcome (do (← fetch name)))).render filters fetch bodies

/-- Renders a tag, given how its bodies are rendered.  `fetch` finds a template by name and answers
how it is rendered. -/
def Head.render (filters : Filters) (fetch : String → Render (Render String)) (head : Head)
    (bodies : List (Render String)) : Render String :=
  match head with
  | layout _ => return ""
  | block name => Render.block name (Render.bodyAt bodies 0)
  | assign name output => do
    let value ← Render.eval fun scope => output.eval filters scope
    Render.modifyScope fun scope => scope.setRoot name value
    return ""
  | capture name => do
    let text ← Render.bodyAt bodies 0
    Render.modifyScope fun scope => scope.setRoot name (.string text)
    return ""
  | conditional conditions => Render.firstHolding conditions bodies
  | negated condition => do
    if ← Render.eval condition.eval then Render.bodyAt bodies 1 else Render.bodyAt bodies 0
  | loop l => l.render bodies
  | signal control => throw (.interrupt control "")
  | text s => return s
  | inclusion name params => do
    let name := (← Render.eval name.eval).text
    let body ← fetch name
    let frame ← paramFrame params
    Render.within frame body
  | script s _ => s.render filters fetch bodies
  | region s _ => s.render filters fetch bodies

namespace Node

mutual

/-- Renders a node; an error that lacks a place gets that of the node. -/
def render (filters : Filters) (fetch : String → Render (Render String)) : Node → Render String
  | literal t => return t.value
  | output o t => Render.located t.position do
    return (← Render.eval fun scope => o.eval filters scope).text
  | tag head bodies t =>
    Render.located t.position (head.render filters fetch (renderBodies filters fetch bodies))

/-- Renders some nodes in order. -/
def renderAll (filters : Filters) (fetch : String → Render (Render String)) : List Node → Render String
  | [] => return ""
  | n :: rest => do
    let text ← render filters fetch n
    Render.after text (renderAll filters fetch rest)

/-- How each of some bodies is rendered. -/
def renderBodies (filters : Filters) (fetch : String → Render (Render String)) :
    List (List Node) → List (Render String)
  | [] => []
  | body :: rest => renderAll filters fetch body :: renderBodies filters fetch rest

end

end Node

namespace Template

/-- Renders the nodes of a template; templates may include each other up to `n` deep. -/
def renderIn (setup : Setup) (filters : Filters) : Nat → List Node → Render String
  | 0, _ => throw .tooDeep
  | n + 1, nodes => Node.renderAll filters (fun name => do
      let issued ← Render.load (setup.getTemplate name)
      return renderIn setup filters n issued.template.nodes) nodes

/-- How deep templates may include each other. -/
def inclusionBound : Nat :=
  1000000

/-- Renders a template. -/
def render (setup : Setup) (filters : Filters) (t : Template) : Render String :=
  renderIn setup filters inclusionBound t.nodes

end Template

end Stencil
