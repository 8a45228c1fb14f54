import Stencil.Render
import Stencil.Filter.Builtin
import Stencil.Filter.Extra
import Stencil.Tag.Extra

/-!
# Engines

An engine knows tags, filters and the sources of templates, and keeps the templates it was asked for
by name.  A name is registered once: it is a word that is not taken yet, and nothing removes it.
-/

set_option autoImplicit false

namespace Stencil

/-- An engine. -/
structure Engine where
  setup : Setup := {}
  filters : Dict Filter := Filter.builtin
  store : Store := {}

namespace Engine

/-- The options of an engine. -/
def options (e : Engine) : Options :=
  e.setup.options

/-- An engine with the tags and filters of every engine. -/
def ofSources (options : Options) (sources : Dict String) : Engine :=
  { setup := { options := options, sources := sources } }

/-- Fails unless a name is a word that is not taken. -/
def checkName (kind : RegistryKind) (name : String) (taken : Bool) : Except Error Unit :=
  if !Text.isPlainName name.toList then .error (.registration (.badName kind name))
  else if taken then .error (.registration (.taken kind name))
  else .ok ()

/-- Registers a kind of tag under a name. -/
def registerTag (e : Engine) (name : String) (kind : TagKind) : Except Error Engine := do
  checkName .tag name (Dict.contains name e.setup.tags)
  return { e with setup := { e.setup with tags := Dict.insert name kind e.setup.tags } }

/-- Registers a filter under a name. -/
def registerFilter (e : Engine) (name : String) (filter : Filter) : Except Error Engine := do
  checkName .filter name (Dict.contains name e.filters)
  return { e with filters := Dict.insert name filter e.filters }

/-- Sets the source of a template. -/
def putSource (e : Engine) (name source : String) : Engine :=
  { e with setup := { e.setup with sources := Dict.insert name source e.setup.sources } }

/-- Uses the store of an engine. -/
def use {α : Type} (e : Engine) (action : Loading α) : Except Error α × Engine :=
  let (r, store) := action.run.run e.store
  (r, { e with store := store })

/-- Reads a template with its layouts. -/
def parse (e : Engine) (name : Option String) (source : String) : Except Error Issued × Engine :=
  e.use do Loading.issue (← e.setup.parse name source)

/-- The template of a name. -/
def getTemplate (e : Engine) (name : String) : Except Error Issued × Engine :=
  e.use (e.setup.getTemplate name)

/-- The source of a template, which is requested. -/
def load (e : Engine) (name : String) : Except Error String × Engine :=
  e.use do
    Loading.ask [.immediate name]
    Loading.ofExcept (e.setup.source name)

/-- The filters as the options have them. -/
def filtersFor (e : Engine) (options : Options) : Filters :=
  ⟨e.filters, options.strictFilters⟩

/-- Renders a template in a scope; a signal that no loop catches is an outcome of its own. -/
def renderInScope (e : Engine) (options : Options) (scope : Scope) (t : Template) :
    Except Error String × Scope × Engine :=
  let (r, s) := (t.render e.setup (e.filtersFor options)).run.run { scope := scope, store := e.store }
  (r, s.scope, { e with store := s.store })

/-- The root frame that data gives: an object, or nothing for null. -/
def rootFrame (data : Value) : Except Error (Dict Value) :=
  match data with
  | .object fields => .ok fields
  | .null => .ok []
  | v => .error (.assertion (.dataNotObject v))

/-- The text of a rendering: a signal that no loop catches ends it with the text before the signal. -/
def rendered (r : Except Error String) : Except Error String :=
  match r with
  | .error (.interrupt _ text) => .ok text
  | r => r

/-- Renders a template with data, under options that may differ from those of the engine. -/
def render (e : Engine) (options : Options) (t : Template) (data : Value) :
    Except Error String × Engine :=
  match rootFrame data with
  | .error err => (.error err, e)
  | .ok root =>
    let (r, _, e) := e.renderInScope options (Scope.ofData root options) t
    (rendered r, e)

/-- Reads and renders a template. -/
def parseAndRender (e : Engine) (source : String) (data : Value) : Except Error String × Engine :=
  match e.parse none source with
  | (.error err, e) => (.error err, e)
  | (.ok issued, e) => e.render e.options issued.template data

/-- Renders the template of a name. -/
def renderFile (e : Engine) (name : String) (data : Value) : Except Error String × Engine :=
  match e.getTemplate name with
  | (.error err, e) => (.error err, e)
  | (.ok issued, e) => e.render e.options issued.template data

/-- The value of an output given as text, whose faults are located at a token. -/
def evaluate (e : Engine) (scope : Scope) (t : Token) (source : String) : Except Error Value := do
  let output ← ExprFault.inToken t (Output.read source)
  output.eval (e.filtersFor e.options) scope

/-- The text of an output given as text. -/
def evalOutput (e : Engine) (scope : Scope) (source : String) : Except Error String := do
  return (← e.evaluate scope (Token.literal source {}) source).text

end Engine

end Stencil
