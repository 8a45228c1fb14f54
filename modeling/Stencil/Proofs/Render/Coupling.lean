import Mathlib.Data.List.Forall2
import Stencil.Proofs.Render.Builtin
import Stencil.Proofs.Render.Calls

/-!
# Two renderings side by side

Two runs of actions are coupled if they begin in states that go together and then have the same
outcome and end in states that go together (`Render.Coupled`).  States go together when their scopes
differ in nothing but how strict they are and their stores are related in a given way (`Coupling`).
The first run may be the stricter one: then it may also fail where the second one does not, as long
as what it fails with is not the signal of a loop, which a loop around it could take for an outcome.
A script could take any failure for an outcome, and so all tags are built-in ones then.

Every action of rendering couples if the uses of the store do: the values of expressions
(`Output.agrees_eval`), the tags (`Head.coupled_render`), and by induction the nodes and the
templates that include each other (`Template.coupled_render`).
-/

set_option autoImplicit false

namespace Stencil

/-- An error that is not the signal of a loop. -/
def Error.IsFault : Error → Prop
  | interrupt _ _ => False
  | _ => True

/-- A fault with a place is a fault. -/
theorem Error.IsFault.orAt {e : Error} (h : e.IsFault) (p : Position) : (e.orAt p).IsFault := by
  cases e with
  | interrupt => exact h.elim
  | render fault q => cases q <;> trivial
  | parse fault near q => cases q <;> trivial
  | _ => trivial

/-- The scope with undefined variables as errors or not. -/
def Scope.withStrict (s : Scope) (strict : Bool) : Scope :=
  { s with strict := strict }

/-- A change of scopes that neither looks at how strict they are nor changes it. -/
structure Scope.IgnoresStrict (f : Scope → Scope) : Prop where
  commutes : ∀ s strict, f (withStrict s strict) = (f s).withStrict strict
  keeps : ∀ s, (f s).strict = s.strict

namespace Scope.IgnoresStrict

/-- One after the other, changes that do not look at the mode do not. -/
theorem comp {f g : Scope → Scope} (hf : IgnoresStrict f) (hg : IgnoresStrict g) :
    IgnoresStrict fun s => g (f s) :=
  ⟨fun s strict => by rw [hf.commutes, hg.commutes], fun s => (hg.keeps _).trans (hf.keeps s)⟩

/-- Binding a variable does not look at the mode. -/
theorem set (name : String) (v : Value) : IgnoresStrict (Scope.set · name v) := by
  constructor
  · intro s strict
    simp only [Scope.set, Scope.withStrict]
    cases s.inner <;> rfl
  · intro s
    unfold Scope.set
    cases s.inner <;> rfl

/-- Binding a variable in the root frame does not look at the mode. -/
theorem setRoot (name : String) (v : Value) : IgnoresStrict (Scope.setRoot · name v) :=
  ⟨fun _ _ => rfl, fun _ => rfl⟩

/-- An entry in a register does not look at the mode. -/
theorem insertInRegister (key name : String) (v : Value) :
    IgnoresStrict (Scope.insertInRegister · key name v) :=
  ⟨fun _ _ => rfl, fun _ => rfl⟩

end Scope.IgnoresStrict

/-- How the states of two runs go together. -/
structure Coupling where
  /-- Whether undefined variables are errors in the first run. -/
  strict : Bool
  /-- Whether undefined variables are errors in the second run. -/
  strict' : Bool
  /-- Whether the first run may fail where the second one does not. -/
  mayFail : Bool
  stores : Store → Store → Prop
  strict'_eq : strict' = strict ∨ strict = true ∧ mayFail = true

namespace Coupling

/-- Two states go together. -/
structure Related (c : Coupling) (s s' : Rendering) : Prop where
  scope : s'.scope = s.scope.withStrict c.strict'
  strict : s.scope.strict = c.strict
  store : c.stores s.store s'.store

/-- The first run fails on its own. -/
def Fails {α : Type} (c : Coupling) (r : Except Error α) : Prop :=
  c.mayFail = true ∧ ∃ e, r = .error e ∧ e.IsFault

/-- Two results are equal, or the first run fails on its own. -/
def Agree {α : Type} (c : Coupling) (r r' : Except Error α) : Prop :=
  c.Fails r ∨ r = r'

section Agree

variable {c : Coupling} {α β : Type}

/-- A result agrees with itself. -/
theorem Agree.refl (r : Except Error α) : c.Agree r r :=
  .inr rfl

/-- A sequence fails where its first step does. -/
theorem Fails.bind {r : Except Error α} (h : c.Fails r) (f : α → Except Error β) :
    c.Fails (r >>= f) := by
  obtain ⟨hmay, e, rfl, he⟩ := h
  exact ⟨hmay, e, rfl, he⟩

/-- Sequences of steps that agree do. -/
theorem Agree.bind {r r' : Except Error α} {f f' : α → Except Error β} (h : c.Agree r r')
    (hf : ∀ x, c.Agree (f x) (f' x)) : c.Agree (r >>= f) (r' >>= f') := by
  obtain hfails | rfl := h
  · exact .inl (hfails.bind f)
  · cases r with
    | error e => exact .refl _
    | ok x => exact hf x

/-- Lists whose entries are mapped in agreement are. -/
theorem agree_mapM {f f' : α → Except Error β} (h : ∀ x, c.Agree (f x) (f' x)) (l : List α) :
    c.Agree (l.mapM f) (l.mapM f') := by
  induction l with
  | nil => exact .refl _
  | cons x rest ih =>
    rw [List.mapM_cons, List.mapM_cons]
    exact (h x).bind fun y => ih.bind fun ys => .refl _

/-- Loops whose rounds agree do. -/
theorem agree_foldlM {f f' : β → α → Except Error β} (h : ∀ b x, c.Agree (f b x) (f' b x))
    (l : List α) (b : β) : c.Agree (l.foldlM f b) (l.foldlM f' b) := by
  induction l generalizing b with
  | nil => exact .refl _
  | cons x rest ih =>
    rw [List.foldlM_cons, List.foldlM_cons]
    exact (h b x).bind ih

end Agree

/-- The filters of the second run are those of the first, and wrong uses of them are errors in both
runs or in the first one only. -/
structure SameFilters (c : Coupling) (filters filters' : Filters) : Prop where
  table : filters'.table = filters.table
  strict : filters'.strict = filters.strict ∨ filters.strict = true ∧ c.mayFail = true

end Coupling

section Values

variable {c : Coupling} {scope : Scope}

mutual

/-- An operand has values that agree in both modes. -/
theorem Operand.agrees_eval (hscope : scope.strict = c.strict) (o : Operand) :
    c.Agree (o.eval scope) (o.eval (scope.withStrict c.strict')) := by
  cases o with
  | literal v =>
    rw [Operand.eval, Operand.eval]
    exact .refl _
  | range first last =>
    rw [Operand.eval, Operand.eval]
    apply (first.agrees_eval hscope).bind
    intro v
    apply Coupling.Agree.bind (.refl _)
    intro n
    apply (last.agrees_eval hscope).bind
    intro w
    exact .refl _
  | path p =>
    rw [Operand.eval, Operand.eval]
    apply (p.agrees_find? hscope).bind
    rintro (_ | v)
    · rw [hscope]
      show c.Agree _ (if c.strict' then _ else _)
      obtain hstrict | ⟨hstrict, hmay⟩ := c.strict'_eq
      · rw [hstrict]
        exact .refl _
      · -- the first run fails at the undefined variable
        rw [hstrict]
        exact .inl ⟨hmay, _, rfl, trivial⟩
    · exact .refl _

/-- A path is looked up in agreement in both modes. -/
theorem Path.agrees_find? (hscope : scope.strict = c.strict) (p : Path) :
    c.Agree (p.find? scope) (p.find? (scope.withStrict c.strict')) := by
  cases p with
  | var name =>
    rw [Path.find?, Path.find?]
    exact .refl _
  | lookup name =>
    rw [Path.find?, Path.find?]
    apply (name.agrees_eval hscope).bind
    intro v
    exact .refl _
  | field base name =>
    rw [Path.find?, Path.find?]
    apply (base.agrees_find? hscope).bind
    intro v
    exact .refl _
  | item base key =>
    rw [Path.find?, Path.find?]
    apply (base.agrees_find? hscope).bind
    rintro (_ | v)
    · exact .refl _
    · apply (key.agrees_eval hscope).bind
      intro w
      exact .refl _

end

/-- A condition holds in agreement in both modes. -/
theorem Condition.agrees_eval (hscope : scope.strict = c.strict) (cond : Condition) :
    c.Agree (cond.eval scope) (cond.eval (scope.withStrict c.strict')) := by
  induction cond with
  | test operand =>
    apply (operand.agrees_eval hscope).bind
    intro v
    exact .refl _
  | compare left comparison right =>
    apply (left.agrees_eval hscope).bind
    intro v
    apply (right.agrees_eval hscope).bind
    intro w
    exact .refl _
  | and left right ihl ihr =>
    apply ihl.bind
    rintro (_ | _)
    · exact .refl _
    · exact ihr
  | or left right ihl ihr =>
    apply ihl.bind
    rintro (_ | _)
    · exact ihr
    · exact .refl _

variable {filters filters' : Filters}

/-- Filters of the same implementations agree. -/
theorem Filters.agrees_apply (hfilters : c.SameFilters filters filters') (name : String)
    (input : Value) (args : List Value) :
    c.Agree (filters.apply name input args) (filters'.apply name input args) := by
  unfold Filters.apply
  rw [hfilters.table]
  obtain hstrict | ⟨hstrict, hmay⟩ := hfilters.strict
  · rw [hstrict]
    exact .refl _
  · -- a wrong use of a filter fails in the first run
    rw [hstrict]
    split
    · exact .inl ⟨hmay, _, rfl, trivial⟩
    · split
      · exact .refl _
      · exact .inl ⟨hmay, _, rfl, trivial⟩
      · exact .refl _

/-- An output has values that agree in both modes. -/
theorem Output.agrees_eval (hscope : scope.strict = c.strict)
    (hfilters : c.SameFilters filters filters') (o : Output) :
    c.Agree (o.eval filters scope) (o.eval filters' (scope.withStrict c.strict')) := by
  apply (o.operand.agrees_eval hscope).bind
  intro v
  apply Coupling.agree_foldlM
  intro input call
  apply (Coupling.agree_mapM (fun arg => arg.agrees_eval hscope) call.args).bind
  intro args
  exact Filters.agrees_apply hfilters call.name input args

end Values

/-- Two actions have results that go together, or they fail alike. -/
inductive SameOutcome {α β : Type} (results : α → β → Prop) :
    Except Error α → Except Error β → Prop
  | ok {x : α} {y : β} (h : results x y) : SameOutcome results (.ok x) (.ok y)
  | error (e : Error) : SameOutcome results (.error e) (.error e)

/-- Equal outcomes are the same. -/
theorem SameOutcome.of_eq {α : Type} (r : Except Error α) : SameOutcome Eq r r := by
  cases r with
  | ok x => exact .ok rfl
  | error e => exact .error e

/-- Outcomes that are the same are equal. -/
theorem SameOutcome.eq {α : Type} {r r' : Except Error α} (h : SameOutcome Eq r r') : r = r' := by
  cases h with
  | ok h => rw [h]
  | error => rfl

/-- Sequences of steps with the same outcomes have the same outcome. -/
theorem SameOutcome.bind {α β α' β' : Type} {results : α → β → Prop} {results' : α' → β' → Prop}
    {r : Except Error α} {r' : Except Error β} {f : α → Except Error α'} {g : β → Except Error β'}
    (h : SameOutcome results r r') (hf : ∀ x y, results x y → SameOutcome results' (f x) (g y)) :
    SameOutcome results' (r >>= f) (r' >>= g) := by
  cases h with
  | ok h => exact hf _ _ h
  | error e => exact .error e

namespace Render

/-- Run in states that go together, two actions have the same outcome, up to how their results are
related, and end in states that go together; or the first one fails on its own. -/
def Coupled {α β : Type} (c : Coupling) (results : α → β → Prop) (a : Render α) (b : Render β) :
    Prop :=
  ∀ s s', c.Related s s' → c.Fails (a.run.run s).1 ∨
    SameOutcome results (a.run.run s).1 (b.run.run s').1 ∧
      c.Related (a.run.run s).2 (b.run.run s').2

section Coupled

variable {c : Coupling} {α β α' β' : Type} {results : α → β → Prop} {results' : α' → β' → Prop}

/-- Results that are related are coupled. -/
theorem coupled_pure {x : α} {y : β} (h : results x y) : Coupled c results (pure x) (pure y) :=
  fun _ _ hs => .inr ⟨.ok h, hs⟩

/-- An error is coupled with itself. -/
theorem coupled_throw (e : Error) : Coupled c results (throw e) (throw e) :=
  fun _ _ hs => .inr ⟨.error e, hs⟩

/-- Sequences of coupled steps are coupled. -/
theorem coupled_bind {a : Render α} {b : Render β} {f : α → Render α'} {g : β → Render β'}
    (h : Coupled c results a b) (hf : ∀ x y, results x y → Coupled c results' (f x) (g y)) :
    Coupled c results' (a >>= f) (b >>= g) := by
  intro s s' hs
  have hab := h s s' hs
  rw [run_bind, run_bind]
  rcases ha : a.run.run s with ⟨r, t⟩
  rcases hb : b.run.run s' with ⟨r', t'⟩
  rw [ha, hb] at hab
  rcases hab with ⟨hmay, e, he, hfault⟩ | ⟨hsame, ht⟩
  · cases he
    exact .inl ⟨hmay, e, rfl, hfault⟩
  · cases hsame with
    | ok hxy => exact hf _ _ hxy t t' ht
    | error e => exact .inr ⟨.error e, ht⟩

/-- Sequences are coupled whose first steps are coupled in equal results. -/
theorem coupled_bind_eq {a b : Render α} {f : α → Render α'} {g : α → Render β'}
    (h : Coupled c Eq a b) (hf : ∀ x, Coupled c results' (f x) (g x)) :
    Coupled c results' (a >>= f) (b >>= g) := by
  apply coupled_bind h
  rintro x _ rfl
  exact hf x

/-- Actions that look at related states are coupled. -/
theorem coupled_get_bind {f : Rendering → Render α} {g : Rendering → Render β}
    (h : ∀ s s', c.Related s s' → Coupled c results (f s) (g s')) :
    Coupled c results (get >>= f) (get >>= g) :=
  fun s s' hs => h s s' hs s s' hs

/-- Evaluations that agree in both modes are coupled. -/
theorem coupled_eval {f g : Scope → Except Error α}
    (h : ∀ scope : Scope, scope.strict = c.strict →
      c.Agree (f scope) (g (scope.withStrict c.strict'))) :
    Coupled c Eq (eval f) (eval g) := by
  intro s s' hs
  rw [run_eval, run_eval, hs.scope]
  obtain hfails | heq := h s.scope hs.strict
  · exact .inl hfails
  · rw [← heq]
    exact .inr ⟨.of_eq _, hs⟩

/-- A change of the scope that does not look at the mode is coupled with itself. -/
theorem coupled_modifyScope {f : Scope → Scope} (hf : Scope.IgnoresStrict f) :
    Coupled c Eq (modifyScope f) (modifyScope f) := by
  intro s s' hs
  rw [run_modifyScope, run_modifyScope]
  refine .inr ⟨.ok rfl, ?_, (hf.keeps s.scope).trans hs.strict, hs.store⟩
  show f s'.scope = (f s.scope).withStrict c.strict'
  rw [hs.scope, hf.commutes]

/-- Actions on related stores that have the same outcome are coupled. -/
theorem coupled_load {a : Loading α} {b : Loading β}
    (h : ∀ s s', c.stores s s' → SameOutcome results (a.run.run s).1 (b.run.run s').1 ∧
      c.stores (a.run.run s).2 (b.run.run s').2) :
    Coupled c results (load a) (load b) := by
  intro s s' hs
  obtain ⟨hsame, hstores⟩ := h s.store s'.store hs.store
  exact .inr ⟨hsame, hs.scope, hs.strict, hstores⟩

/-- Within one frame, coupled actions are coupled. -/
theorem coupled_within {a b : Render α} (h : Coupled c Eq a b) (frame : Dict Value) :
    Coupled c Eq (within frame a) (within frame b) := by
  intro s s' hs
  have hpush : c.Related (s.withScope (Scope.push · frame)) (s'.withScope (Scope.push · frame)) := by
    refine ⟨?_, hs.strict, hs.store⟩
    show s'.scope.push frame = (s.scope.push frame).withStrict c.strict'
    rw [hs.scope]
    rfl
  obtain hfails | ⟨hsame, ht⟩ := h _ _ hpush
  · exact .inl hfails
  · refine .inr ⟨hsame, ?_, ht.strict, ht.store⟩
    exact congrArg Scope.pop ht.scope

/-- What turns the outcome of an action into another one, and faults into faults, couples. -/
theorem coupled_outcome {a b : Render α} {a' b' : Render β} (h : Coupled c Eq a b)
    {k : Except Error α → Except Error β}
    (ha : ∀ s, a'.run.run s = (k (a.run.run s).1, (a.run.run s).2))
    (hb : ∀ s, b'.run.run s = (k (b.run.run s).1, (b.run.run s).2))
    (hk : ∀ e : Error, e.IsFault → ∃ e', k (.error e) = .error e' ∧ e'.IsFault) :
    Coupled c Eq a' b' := by
  intro s s' hs
  rw [ha, hb]
  obtain ⟨hmay, e, he, hfault⟩ | ⟨hsame, ht⟩ := h s s' hs
  · rw [he]
    exact .inl ⟨hmay, hk e hfault⟩
  · rw [hsame.eq]
    exact .inr ⟨.of_eq _, ht⟩

/-- With one place, coupled actions are coupled. -/
theorem coupled_located {a b : Render α} (h : Coupled c Eq a b) (p : Position) :
    Coupled c Eq (located p a) (located p b) :=
  coupled_outcome h (k := Except.mapError (Error.orAt · p)) (fun _ => rfl) (fun _ => rfl)
    fun e he => ⟨e.orAt p, rfl, he.orAt p⟩

/-- Behind one text, coupled actions are coupled. -/
theorem coupled_after {a b : Render String} (h : Coupled c Eq a b) (text : String) :
    Coupled c Eq (after text a) (after text b) := by
  apply coupled_outcome h (run_after text a) (run_after text b)
  intro e he
  cases e with
  | interrupt => exact he.elim
  | _ => exact ⟨_, rfl, he⟩

/-- Rounds of coupled bodies are coupled. -/
theorem coupled_round {a b : Render String} (h : Coupled c Eq a b) :
    Coupled c Eq (round a) (round b) := by
  apply coupled_outcome h (run_round a) (run_round b)
  intro e he
  cases e with
  | interrupt => exact he.elim
  | _ => exact ⟨_, rfl, he⟩

/-- Where the first run never fails on its own, an action may go by the outcome of another one. -/
theorem coupled_caught (hmay : c.mayFail = false) {a b : Render α} (h : Coupled c Eq a b) :
    Coupled c Eq (outcome a) (outcome b) := by
  intro s s' hs
  rw [run_outcome, run_outcome]
  obtain ⟨hfails, -⟩ | ⟨hsame, ht⟩ := h s s' hs
  · rw [hmay] at hfails
    cases hfails
  · exact .inr ⟨.ok hsame.eq, ht⟩

variable {bodies bodies' : List (Render String)}

/-- Of coupled bodies, those of one number are coupled. -/
theorem coupled_bodyAt (h : List.Forall₂ (Coupled c Eq) bodies bodies') (i : Nat) :
    Coupled c Eq (bodyAt bodies i) (bodyAt bodies' i) := by
  induction h generalizing i with
  | nil => exact coupled_pure rfl
  | cons h _ ih =>
    cases i with
    | zero => exact h
    | succ i => exact ih i

/-- The first body whose condition holds is coupled. -/
theorem coupled_firstHolding (h : List.Forall₂ (Coupled c Eq) bodies bodies')
    (conditions : List Condition) :
    Coupled c Eq (firstHolding conditions bodies) (firstHolding conditions bodies') := by
  induction conditions generalizing bodies bodies' with
  | nil => exact coupled_bodyAt h 0
  | cons cond conditions ih =>
    cases h with
    | nil => exact coupled_pure rfl
    | cons hbody hrest =>
      apply coupled_bind_eq (coupled_eval fun _ hscope => cond.agrees_eval hscope)
      rintro (_ | _)
      · exact ih hrest
      · exact hbody

/-- Blocks with coupled bodies are coupled. -/
theorem coupled_block {a b : Render String} (h : Coupled c Eq a b) (name : String) :
    Coupled c Eq (block name a) (block name b) := by
  apply coupled_get_bind
  intro s s' hs
  rw [hs.scope, show (s.scope.withStrict c.strict').registerObject blockRegister =
    s.scope.registerObject blockRegister from rfl]
  split
  · exact coupled_pure rfl
  · apply coupled_bind_eq h
    intro text
    apply coupled_bind_eq (coupled_modifyScope (.insertInRegister _ name _))
    intro _
    exact coupled_pure rfl

end Coupled

end Render

open Render

section Heads

variable {c : Coupling} {filters filters' : Filters} {bodies bodies' : List (Render String)}

/-- The evaluation of an operand is coupled. -/
theorem coupled_operand (o : Operand) : Coupled c Eq (eval o.eval) (eval o.eval) :=
  coupled_eval fun _ hscope => o.agrees_eval hscope

/-- The frame of an inclusion is coupled. -/
theorem coupled_paramFrame (params : List (String × Operand)) :
    Coupled c Eq (paramFrame params) (paramFrame params) := by
  unfold paramFrame
  generalize ([] : Dict Value) = frame
  induction params generalizing frame with
  | nil => exact coupled_pure rfl
  | cons p params ih =>
    rw [List.foldlM_cons, bind_assoc]
    apply coupled_bind_eq (coupled_operand p.2)
    intro value
    rw [pure_bind]
    exact ih _

namespace Loop

/-- The count of a loop is coupled. -/
theorem coupled_count (operand : Option Operand) : Coupled c Eq (count operand) (count operand) := by
  cases operand with
  | none => exact coupled_pure rfl
  | some operand =>
    apply coupled_bind_eq (coupled_operand operand)
    intro v
    cases v with
    | number n => exact coupled_pure rfl
    | null => exact coupled_pure rfl
    | _ => exact coupled_throw _

/-- The items that a loop visits are coupled. -/
theorem coupled_visited (loop : Loop) : Coupled c Eq loop.visited loop.visited := by
  apply coupled_bind_eq (coupled_operand loop.collection)
  intro v
  apply coupled_bind_eq (coupled_count loop.offset)
  intro offset
  apply coupled_bind_eq (coupled_count loop.limit)
  intro limit
  exact coupled_pure rfl

/-- The rounds of loops with coupled bodies are coupled. -/
theorem coupled_rounds {a b : Render String} (h : Coupled c Eq a b) (var : String)
    (length index : Nat) (items : List Value) :
    Coupled c Eq (rounds var length a index items) (rounds var length b index items) := by
  induction items generalizing index with
  | nil => exact coupled_pure rfl
  | cons item rest ih =>
    apply coupled_bind_eq
      (coupled_modifyScope ((Scope.IgnoresStrict.set var item).comp (.set "forloop" _)))
    intro _
    apply coupled_bind_eq (coupled_round h)
    rintro ⟨text, goesOn⟩
    cases goesOn with
    | false => exact coupled_pure rfl
    | true =>
      apply coupled_bind_eq (ih (index + 1))
      intro more
      exact coupled_pure rfl

/-- Loops with coupled bodies are coupled. -/
theorem coupled_render (h : List.Forall₂ (Coupled c Eq) bodies bodies') (loop : Loop) :
    Coupled c Eq (loop.render bodies) (loop.render bodies') := by
  rw [render_eq, render_eq]
  apply coupled_bind_eq (coupled_visited loop)
  intro items
  split
  · exact coupled_bodyAt h 1
  · exact coupled_within (coupled_rounds (coupled_bodyAt h 0) _ _ _ _) []

end Loop

/-- Where the first run never fails on its own, a script couples if the bodies of its tag and what it
includes do. -/
theorem Script.coupled_render (hmay : c.mayFail = false) (hfilters : c.SameFilters filters filters')
    {fetch fetch' : String → Render (Render String)}
    (hfetch : ∀ name, Coupled c (Coupled c Eq) (fetch name) (fetch' name))
    (h : List.Forall₂ (Coupled c Eq) bodies bodies') (script : Script) :
    Coupled c Eq (script.render filters fetch bodies) (script.render filters' fetch' bodies') := by
  induction script with
  | done text => exact coupled_pure rfl
  | fail e => exact coupled_throw e
  | eval output k ih =>
    have heval : Coupled c Eq (Render.eval fun scope => output.eval filters scope)
        (Render.eval fun scope => output.eval filters' scope) :=
      coupled_eval fun _ hscope => output.agrees_eval hscope hfilters
    exact coupled_bind_eq (coupled_caught hmay heval) ih
  | set name value k ih =>
    exact coupled_bind_eq (coupled_modifyScope (.set name value)) fun _ => ih
  | setRoot name value k ih =>
    exact coupled_bind_eq (coupled_modifyScope (.setRoot name value)) fun _ => ih
  | entries register k ih =>
    apply coupled_get_bind
    intro s s' hs
    rw [hs.scope]
    exact ih _
  | insert register key value k ih =>
    exact coupled_bind_eq (coupled_modifyScope (.insertInRegister register key value)) fun _ => ih
  | within frame inner k ihInner ih =>
    exact coupled_bind_eq (coupled_caught hmay (coupled_within ihInner frame)) ih
  | body i k ih => exact coupled_bind_eq (coupled_caught hmay (coupled_bodyAt h i)) ih
  | inclusion name k ih =>
    have hincluded : Coupled c Eq (do (← fetch name)) (do (← fetch' name)) :=
      coupled_bind (hfetch name) fun _ _ hbody => hbody
    exact coupled_bind_eq (coupled_caught hmay hincluded) ih

/-- A tag couples if its bodies and what it includes do. -/
theorem Head.coupled_render (hfilters : c.SameFilters filters filters')
    {fetch fetch' : String → Render (Render String)}
    (hfetch : ∀ name, Coupled c (Coupled c Eq) (fetch name) (fetch' name))
    (h : List.Forall₂ (Coupled c Eq) bodies bodies') {head : Head}
    (hhead : c.mayFail = true → head.Builtin) :
    Coupled c Eq (head.render filters fetch bodies) (head.render filters' fetch' bodies') := by
  cases head with
  | layout | text => exact coupled_pure rfl
  | signal => exact coupled_throw _
  | block name => exact coupled_block (coupled_bodyAt h 0) name
  | assign name value =>
    apply coupled_bind_eq (coupled_eval fun _ hscope => value.agrees_eval hscope hfilters)
    intro v
    apply coupled_bind_eq (coupled_modifyScope (.setRoot name v))
    intro _
    exact coupled_pure rfl
  | capture name =>
    apply coupled_bind_eq (coupled_bodyAt h 0)
    intro text
    apply coupled_bind_eq (coupled_modifyScope (.setRoot name _))
    intro _
    exact coupled_pure rfl
  | conditional conditions => exact coupled_firstHolding h conditions
  | negated cond =>
    apply coupled_bind_eq (coupled_eval fun _ hscope => cond.agrees_eval hscope)
    rintro (_ | _)
    · exact coupled_bodyAt h 0
    · exact coupled_bodyAt h 1
  | loop l => exact l.coupled_render h
  | inclusion name params =>
    apply coupled_bind_eq (coupled_operand name)
    intro v
    apply coupled_bind (hfetch v.text)
    intro body body' hbody
    apply coupled_bind_eq (coupled_paramFrame params)
    intro frame
    exact coupled_within hbody frame
  | script s | region s => exact s.coupled_render (Bool.eq_false_iff.2 hhead) hfilters hfetch h

end Heads

section Nodes

variable {c : Coupling} {filters filters' : Filters} {fetch fetch' : String → Render (Render String)}

mutual

/-- A node couples if what it includes does. -/
theorem Node.coupled_render (hfilters : c.SameFilters filters filters')
    (hfetch : ∀ name, Coupled c (Coupled c Eq) (fetch name) (fetch' name)) {n : Node}
    (hn : c.mayFail = true → n.Builtin) :
    Coupled c Eq (n.render filters fetch) (n.render filters' fetch') := by
  cases n with
  | literal => exact coupled_pure rfl
  | output o t =>
    apply coupled_located
    apply coupled_bind_eq (coupled_eval fun _ hscope => o.agrees_eval hscope hfilters)
    intro v
    exact coupled_pure rfl
  | tag head bodies t =>
    apply coupled_located
    exact Head.coupled_render hfilters hfetch
      (Node.coupled_renderBodies hfilters hfetch fun hmay => (hn hmay).2) fun hmay => (hn hmay).1

/-- Some nodes couple if what they include does. -/
theorem Node.coupled_renderAll (hfilters : c.SameFilters filters filters')
    (hfetch : ∀ name, Coupled c (Coupled c Eq) (fetch name) (fetch' name)) {nodes : List Node}
    (hn : c.mayFail = true → BuiltinAll nodes) :
    Coupled c Eq (renderAll filters fetch nodes) (renderAll filters' fetch' nodes) := by
  cases nodes with
  | nil => exact coupled_pure rfl
  | cons n rest =>
    apply coupled_bind_eq (Node.coupled_render hfilters hfetch fun hmay => (hn hmay).1)
    intro text
    exact coupled_after (Node.coupled_renderAll hfilters hfetch fun hmay => (hn hmay).2) text

/-- Each of some bodies couples if what it includes does. -/
theorem Node.coupled_renderBodies (hfilters : c.SameFilters filters filters')
    (hfetch : ∀ name, Coupled c (Coupled c Eq) (fetch name) (fetch' name))
    {bodies : List (List Node)} (hn : c.mayFail = true → BuiltinInBodies bodies) :
    List.Forall₂ (Coupled c Eq) (renderBodies filters fetch bodies)
      (renderBodies filters' fetch' bodies) := by
  cases bodies with
  | nil => exact .nil
  | cons body rest =>
    exact .cons (Node.coupled_renderAll hfilters hfetch fun hmay => (hn hmay).1)
      (Node.coupled_renderBodies hfilters hfetch fun hmay => (hn hmay).2)

end

/-- Two runs load the same template, which is built of the tags of every engine if the first run may fail
on its own. -/
def Coupling.SameTemplate (c : Coupling) (i i' : Issued) : Prop :=
  i.template = i'.template ∧ (c.mayFail = true → i.template.Builtin)

namespace Template

variable {setup setup' : Setup}

/-- Templates that may include each other `n` deep couple if loading them does. -/
theorem coupled_renderIn (hfilters : c.SameFilters filters filters')
    (hload : ∀ name, Coupled c c.SameTemplate (load (setup.getTemplate name))
      (load (setup'.getTemplate name)))
    (n : Nat) {nodes : List Node} (hn : c.mayFail = true → Node.BuiltinAll nodes) :
    Coupled c Eq (renderIn setup filters n nodes) (renderIn setup' filters' n nodes) := by
  induction n generalizing nodes with
  | zero => exact coupled_throw _
  | succ n ih =>
    refine Node.coupled_renderAll hfilters ?_ hn
    intro name
    apply coupled_bind (hload name)
    rintro i i' ⟨hsame, hbuiltin⟩
    rw [← hsame]
    exact coupled_pure (ih hbuiltin)

/-- A template couples if loading what it includes does. -/
theorem coupled_render (hfilters : c.SameFilters filters filters')
    (hload : ∀ name, Coupled c c.SameTemplate (load (setup.getTemplate name))
      (load (setup'.getTemplate name)))
    {t : Template} (ht : c.mayFail = true → t.Builtin) :
    Coupled c Eq (t.render setup filters) (t.render setup' filters') :=
  coupled_renderIn hfilters hload inclusionBound ht

end Template

end Nodes

end Stencil
