import Stencil.Template

/-!
# Stores

A store remembers what the use of templates leaves behind: the templates kept by name, the requests
that were made for sources, and how many templates were made.  Every template that is made gets a
serial number, so that a kept template can be told from one that was made anew.
-/

set_option autoImplicit false

namespace Stencil

/-- A request for the source of a template. -/
inductive Request where
  /-- The source is needed while another template is read. -/
  | immediate (name : String)
  /-- The source may be waited for. -/
  | deferred (name : String)

/-- A template and the number under which it was made. -/
structure Issued where
  serial : Nat
  template : Template

/-- What the use of templates leaves behind. -/
structure Store where
  cache : Dict Issued := []
  /-- The requests in the order in which they were made. -/
  requests : List Request := []
  /-- How many templates were made. -/
  count : Nat := 0

/-- An action that may fail and that changes the store either way. -/
abbrev Loading := ExceptT Error (StateM Store)

namespace Store

/-- Adds requests. -/
def ask (s : Store) (requests : List Request) : Store :=
  { s with requests := s.requests ++ requests }

/-- Keeps a template under a name. -/
def keep (s : Store) (name : String) (issued : Issued) : Store :=
  { s with cache := Dict.insert name issued s.cache }

end Store

namespace Loading

/-- Makes requests. -/
def ask (requests : List Request) : Loading Unit :=
  modify (Store.ask · requests)

/-- A result that does not touch the store. -/
def ofExcept {α : Type} (r : Except Error α) : Loading α :=
  ExceptT.mk (pure r)

/-- Gives a template its serial number. -/
def issue (t : Template) : Loading Issued := do
  let s ← get
  set { s with count := s.count + 1 }
  return ⟨s.count, t⟩

end Loading

namespace Setup

/-- Reads a template, with the requests for its layouts. -/
def parse (setup : Setup) (name : Option String) (source : String) : Loading Template := do
  let (r, asked) := Template.parse setup name source
  Loading.ask (asked.map .immediate)
  Loading.ofExcept r

/-- The source of a template. -/
def source (setup : Setup) (name : String) : Except Error String :=
  match Dict.find? name setup.sources with
  | some source => .ok source
  | none => .error (.notFound name)

/-- Requests the source of a template and reads it. -/
def load (setup : Setup) (name : String) : Loading Issued := do
  Loading.ask [.deferred name]
  let source ← Loading.ofExcept (setup.source name)
  let template ← setup.parse (some name) source
  Loading.issue template

/-- The template of a name.  Where templates are kept, one that was read before is used again, and
one that could not be read is not kept. -/
def getTemplate (setup : Setup) (name : String) : Loading Issued := do
  let name := setup.options.resolveName name
  if setup.options.cache then
    match Dict.find? name (← get).cache with
    | some issued => return issued
    | none =>
      let issued ← setup.load name
      modify (Store.keep · name issued)
      return issued
  else setup.load name

end Setup

end Stencil
