import Stencil.Engine

/-!
# Sessions

A session works with one engine and one scope for a while and keeps templates in named slots.
-/

set_option autoImplicit false

namespace Stencil

/-- An engine, a scope and templates in named slots. -/
structure Session where
  engine : Engine
  scope : Scope
  slots : Dict Issued := []

namespace Session

/-- A session whose scope holds the data. -/
def start (engine : Engine) (data : Dict Value) : Session :=
  { engine := engine, scope := Scope.ofData data engine.options }

/-- Forgets the requests that were made so far. -/
def forgetRequests (s : Session) : Session :=
  { s with engine := { s.engine with store := { s.engine.store with requests := [] } } }

/-- The requests that were made since they were last forgotten. -/
def requests (s : Session) : List Request :=
  s.engine.store.requests

/-- Takes over the engine behind a result. -/
def withEngine {α : Type} (s : Session) (r : Except Error α × Engine) : Except Error α × Session :=
  (r.1, { s with engine := r.2 })

/-- The slots that hold the very template. -/
def holders (s : Session) (issued : Issued) : List String :=
  (s.slots.filter fun e => e.2.serial == issued.serial).map Prod.fst

/-- Puts a template into a slot, behind the slots that held it before. -/
def keep (s : Session) (slot : String) (r : Except Error Issued × Engine) :
    Except Error (Issued × List String) × Session :=
  let s := { s with engine := r.2 }
  match r.1 with
  | .error e => (.error e, s)
  | .ok issued => (.ok (issued, s.holders issued), { s with slots := Dict.insert slot issued s.slots })

/-- Reads a template into a slot. -/
def parse (s : Session) (slot : String) (name : Option String) (source : String) :
    Except Error (Issued × List String) × Session :=
  s.keep slot (s.engine.parse name source)

/-- Puts the template of a name into a slot. -/
def getTemplate (s : Session) (slot name : String) : Except Error (Issued × List String) × Session :=
  s.keep slot (s.engine.getTemplate name)

/-- The template in a slot. -/
def template? (s : Session) (slot : String) : Option Template :=
  (Dict.find? slot s.slots).map Issued.template

/-- Renders a template in the scope of the session. -/
def renderInScope (s : Session) (t : Template) : Except Error String × Session :=
  let (r, scope, engine) := s.engine.renderInScope s.engine.options s.scope t
  (r, { s with scope := scope, engine := engine })

/-- Takes over an engine with a further registration. -/
def register (s : Session) (r : Except Error Engine) : Except Error Unit × Session :=
  match r with
  | .error e => (.error e, s)
  | .ok engine => (.ok (), { s with engine := engine })

end Session

end Stencil
