import Stencil.Proofs.Render.Coupling

/-!
# Strict renderings

A rendering that is strict about variables and filters fails where another one takes an undefined
variable for null, or passes a value by a filter.  What it does not fail at, it does like any other
rendering: its run is coupled with the run under other options (`Engine.coupled_of_strict`).  So a text
that is rendered strictly is rendered under all options, and with the same effects
(`Engine.render_of_strict`).
-/

set_option autoImplicit false

namespace Stencil

/-- A strict run beside one that is strict or not, on equal stores of templates of built-in tags. -/
def Coupling.strictly (strict : Bool) : Coupling where
  strict := true
  strict' := strict
  mayFail := true
  stores s s' := s = s' ∧ s.Builtin
  strict'_eq := .inr ⟨rfl, rfl⟩

open Render

/-- Both runs load the same template. -/
theorem Render.coupled_load_self (strict : Bool) {setup : Setup}
    (htags : setup.tags = TagKind.builtin) (name : String) :
    Coupled (.strictly strict) (Coupling.strictly strict).SameTemplate
      (load (setup.getTemplate name)) (load (setup.getTemplate name)) := by
  apply coupled_load
  rintro s _ ⟨rfl, hs⟩
  obtain ⟨hstore, hissued⟩ := setup.sound_getTemplate htags name s hs
  refine ⟨?_, rfl, hstore⟩
  cases hresult : ((setup.getTemplate name).run.run s).1 with
  | ok issued => exact .ok ⟨rfl, fun _ => hissued issued hresult⟩
  | error e => exact .error e

namespace Engine

/-- The run of a strict rendering beside that of another rendering of the same template. -/
theorem coupled_of_strict {e : Engine} (he : e.Builtin) {strict : Options}
    (hfilters : strict.strictFilters = true) (options : Options) {t : Template} (ht : t.Builtin) :
    Coupled (.strictly options.strictVariables) Eq (t.render e.setup (e.filtersFor strict))
      (t.render e.setup (e.filtersFor options)) := by
  have hsame : (Coupling.strictly options.strictVariables).SameFilters (e.filtersFor strict)
      (e.filtersFor options) := ⟨rfl, .inr ⟨hfilters, rfl⟩⟩
  exact Template.coupled_render hsame (coupled_load_self options.strictVariables he.tags)
    fun _ => ht

/-- A rendering that fails has no text. -/
theorem rendered_ne_ok {r : Except Error String} {e : Error} (hr : r = .error e) (he : e.IsFault)
    (text : String) : rendered r ≠ .ok text := by
  subst hr
  cases e with
  | interrupt => exact he.elim
  | _ => rintro ⟨⟩

/-- What a strict rendering does not fail at, it does under any options. -/
theorem renderInScope_of_strict {e e' : Engine} (he : e.Builtin) {strict : Options}
    {scope scope' : Scope} {t : Template} (ht : t.Builtin) {r : Except Error String}
    (hscope : scope.strict = true)
    (hfilters : strict.strictFilters = true)
    (h : e.renderInScope strict scope t = (r, scope', e')) (options : Options) :
    (∃ err, r = .error err ∧ err.IsFault) ∨
      e.renderInScope options (scope.withStrict options.strictVariables) t =
        (r, scope'.withStrict options.strictVariables, e') := by
  have hstart : (Coupling.strictly options.strictVariables).Related ⟨scope, e.store⟩
      ⟨scope.withStrict options.strictVariables, e.store⟩ := ⟨rfl, hscope, rfl, he.store⟩
  have hcoupled := coupled_of_strict he hfilters options ht _ _ hstart
  simp only [renderInScope] at h ⊢
  generalize (t.render e.setup (e.filtersFor strict)).run.run ⟨scope, e.store⟩ = run at h hcoupled
  generalize (t.render e.setup (e.filtersFor options)).run.run
    ⟨scope.withStrict options.strictVariables, e.store⟩ = run' at hcoupled ⊢
  obtain ⟨r', ⟨s', store'⟩⟩ := run'
  cases h
  obtain ⟨-, hfails⟩ | ⟨hsame, hend⟩ := hcoupled
  · exact .inl hfails
  · cases hsame.eq
    cases hend.scope
    cases show run.2.store = store' from hend.store.1
    exact .inr rfl

/-- With the tags of every engine, a text that is rendered strictly is rendered under any options,
with the same variables of the root frame, the same registers and the same use of the engine. -/
theorem render_of_strict {e : Engine} (he : e.Builtin) {strict : Options}
    (hvariables : strict.strictVariables = true) (hfilters : strict.strictFilters = true)
    {t : Template} (ht : t.Builtin) {data : Value} {text : String}
    (h : (e.render strict t data).1 = .ok text)
    (options : Options) :
    e.render options t data = e.render strict t data ∧
      ∃ root r s s', rootFrame data = .ok root ∧
        e.renderInScope strict (Scope.ofData root strict) t = (r, s, (e.render strict t data).2) ∧
        e.renderInScope options (Scope.ofData root options) t =
          (r, s', (e.render options t data).2) ∧
        rendered r = .ok text ∧ s'.root = s.root ∧ s'.registers = s.registers := by
  cases hroot : rootFrame data with
  | error err =>
    simp only [render, hroot] at h
    cases h
  | ok root =>
    obtain ⟨r, s, e', hrun⟩ : ∃ r s e',
        e.renderInScope strict (Scope.ofData root strict) t = (r, s, e') := ⟨_, _, _, rfl⟩
    simp only [render, hroot, hrun] at h ⊢
    obtain ⟨err, rfl, hfault⟩ | hother := renderInScope_of_strict he ht hvariables hfilters hrun options
    · exact absurd h (rendered_ne_ok rfl hfault text)
    · change e.renderInScope options (Scope.ofData root options) t = _ at hother
      rw [hother]
      exact ⟨rfl, root, r, s, _, rfl, hrun, hother, h, rfl, rfl⟩

/-- An engine with a template that sums up in the root frame. -/
def stall : Engine :=
  ofSources {} [("row.liquid",
    "\x7b% assign sum = sum | plus: cost %\x7d\x7b\x7b name | upcase \x7d\x7d")]

/-- A template that includes the other one in every round of a loop and prints the sum. -/
def stallSource : String :=
  "\x7b% assign sum = 0 %\x7d\x7b% for item in stock %\x7d" ++
    "\x7b% include 'row', name: item.name, cost: item.cost %\x7d\x7b% endfor %\x7d: \x7b\x7b sum \x7d\x7d"

/-- Two things with their costs. -/
def stallData : Value :=
  .object [("stock", .array [
    .object [("name", .string "a"), ("cost", .ofNat 2)],
    .object [("name", .string "b"), ("cost", .ofNat 3)]])]

/-- Options under which every undefined name is an error. -/
def strictest : Options :=
  { strictFilters := true, strictVariables := true }

/-- The sum of the costs is the same with and without the strict options. -/
theorem render_of_strict_stall : ∃ issued, (stall.parse none stallSource).1 = .ok issued ∧
    stall.Builtin ∧ issued.template.Builtin ∧ strictest.strictVariables = true ∧
    strictest.strictFilters = true ∧
    (stall.render strictest issued.template stallData).1 = .ok "AB: 5" ∧
    stall.render {} issued.template stallData =
      stall.render strictest issued.template stallData ∧
    ∃ root r s s', rootFrame stallData = .ok root ∧
      stall.renderInScope strictest (Scope.ofData root strictest) issued.template =
        (r, s, (stall.render strictest issued.template stallData).2) ∧
      stall.renderInScope {} (Scope.ofData root {}) issued.template =
        (r, s', (stall.render {} issued.template stallData).2) ∧
      rendered r = .ok "AB: 5" ∧ s'.root = s.root ∧ s'.registers = s.registers := by
  have hcheck : (stall.parse none stallSource).1.toOption.map (fun issued =>
      (stall.render strictest issued.template stallData).1.toOption) = some (some "AB: 5") := by
    decide +kernel
  obtain ⟨issued, hparse, htext⟩ := exists_ok_of_map_toOption hcheck
  have hok : (stall.render strictest issued.template stallData).1 = .ok "AB: 5" := by
    cases hr : (stall.render strictest issued.template stallData).1 with
    | error err => rw [hr] at htext; cases htext
    | ok text => rw [hr] at htext; cases htext; rfl
  have he : stall.Builtin := builtin_ofSources _ _
  have ht : issued.template.Builtin := (he.parse none stallSource).2 issued hparse
  exact ⟨issued, hparse, he, ht, rfl, rfl, hok, render_of_strict he rfl rfl ht hok {}⟩

end Engine

end Stencil
