import Stencil.Proofs.Expr.Names
import Stencil.Proofs.Render.Frames

/-!
# What an assignment leaves visible

An assignment binds its variable in the root frame (`Node.run_assign`), where it outlives all other
frames, and a variable is looked up from the innermost frame outwards.  So behind the assignment its
variable has the new value exactly if no frame in between holds the name, that is, if it is neither
the variable of a loop around the assignment, nor `forloop` inside a loop, nor a parameter of an
inclusion around it (`Engine.assign_visible`).
-/

set_option autoImplicit false

namespace Stencil

namespace Scope

/-- A variable is looked up in the inner frames, and then in the root frame. -/
theorem find?_eq_or (s : Scope) (name : String) :
    s.find? name = (s.inner.findSome? (Dict.find? name)).or (Dict.find? name s.root) := by
  unfold find?
  cases s.inner.findSome? (Dict.find? name) <;> rfl

variable {s : Scope} {name : String}

/-- A variable that no inner frame binds has the value that it has in the root frame. -/
theorem find?_setRoot_of_free (h : s.inner.findSome? (Dict.find? name) = none) (v : Value) :
    (s.setRoot name v).find? name = some v := by
  rw [find?_eq_or, setRoot, h, Dict.find?_insert_self]
  rfl

/-- A variable that an inner frame binds keeps its value, whatever is bound in the root frame. -/
theorem find?_setRoot_of_hidden (h : s.inner.findSome? (Dict.find? name) ≠ none) (v : Value) :
    ∃ w, s.find? name = some w ∧ (s.setRoot name v).find? name = some w := by
  obtain ⟨w, hw⟩ := Option.ne_none_iff_exists'.1 h
  refine ⟨w, ?_, ?_⟩
  · rw [find?_eq_or, hw]
    rfl
  · rw [find?_eq_or, setRoot, hw]
    rfl

end Scope

namespace Node

variable (filters : Filters) (fetch : String → Render (Render String)) (s : Rendering)

/-- An assignment that succeeds binds its variable in the root frame and renders nothing. -/
theorem run_assign (x : String) (o : Output) (bodies : List (List Node)) (token : Token) :
    ((Node.tag (.assign x o) bodies token).render filters fetch).run.run s =
      match o.eval filters s.scope with
      | .ok v => (.ok "", s.withScope (Scope.setRoot · x v))
      | .error e => (.error (e.orAt token.position), s) := by
  show (Render.located token.position (Render.eval (fun scope => o.eval filters scope) >>=
    fun v => Render.modifyScope (Scope.setRoot · x v) >>= fun _ => pure "")).run.run s = _
  rw [Render.run_located, run_bind, Render.run_eval]
  cases o.eval filters s.scope with
  | ok v => rfl
  | error e => rfl

/-- A variable has a value, and an output of its name prints the value. -/
def Prints (x : String) (v : Value) : Prop :=
  s.scope.find? x = some v ∧ ∃ output, Output.read x = .ok output ∧
    ∀ token, ((Node.output output token).render filters fetch).run.run s = (.ok v.text, s)

/-- A name that has a value prints it, unless the name is a literal. -/
theorem prints_of_find? {x : String} (hname : Text.isDashedName x.toList = true)
    (hliteral : Reading.wordLiteral? x = none) {v : Value} (h : s.scope.find? x = some v) :
    Prints filters fetch s x v := by
  obtain ⟨source, hsource⟩ := Output.read_name hname hliteral
  refine ⟨h, _, hsource, fun token => ?_⟩
  have hvalue : (⟨source, .path (.var x), []⟩ : Output).eval filters s.scope = .ok v := by
    unfold Output.eval
    rw [Operand.eval, Path.find?, h]
    rfl
  show (Render.located token.position (Render.eval (fun scope => Output.eval filters scope _) >>=
    fun v => pure v.text)).run.run s = _
  rw [Render.run_located, run_bind, Render.run_eval, hvalue]
  rfl

end Node

open Template (fetch inclusionBound)

namespace Engine

/-- No frame inside the root frame holds a variable: neither one of those for the given names, nor
one of the inner frames of a scope. -/
def Free (scope : Scope) (names : List (List String)) (x : String) : Prop :=
  (∀ own ∈ names, x ∉ own) ∧ scope.inner.findSome? (Dict.find? x) = none

/-- An assignment that succeeds at a point of a rendering binds its variable in the root frame to the
value of its output.  If no frame around the point and no inner frame that the rendering began with
holds the name, then the variable has that value and prints it; otherwise it has, and prints, the
value that it had before. -/
theorem assign_visible {e : Engine} (he : e.Builtin) {options : Options} {scope : Scope}
    {t u : Template} (ht : t.Builtin) {names : List (List String)} {n : Nat} {x text : String}
    {o : Output} {bodies : List (List Node)} {token : Token} {rest : List Node} {s s' : Rendering}
    (hreach : Framed e.setup (e.filtersFor options) ⟨t, inclusionBound, t.nodes, ⟨scope, e.store⟩⟩
      names ⟨u, n + 1, .tag (.assign x o) bodies token :: rest, s⟩)
    (hliteral : Reading.wordLiteral? x = none)
    (hrun : ((Node.tag (.assign x o) bodies token).render (e.filtersFor options)
      (fetch e.setup (e.filtersFor options) n)).run.run s = (.ok text, s')) :
    ∃ v, o.eval (e.filtersFor options) s.scope = .ok v ∧ text = "" ∧
      s' = s.withScope (Scope.setRoot · x v) ∧
      (Free scope names x → Node.Prints (e.filtersFor options)
        (fetch e.setup (e.filtersFor options) n) s' x v) ∧
      (¬ Free scope names x → ∃ w, s.scope.find? x = some w ∧
        Node.Prints (e.filtersFor options) (fetch e.setup (e.filtersFor options) n) s' x w) := by
  obtain ⟨hnodes, hframes⟩ := hreach.surrounded he.tags ht he.store
  have hname : Text.isDashedName x.toList = true := hnodes.1.1
  have hfree : s.scope.inner.findSome? (Dict.find? x) = none ↔ Free scope names x :=
    hframes.findSome?_eq_none_iff x
  rw [Node.run_assign] at hrun
  cases hv : o.eval (e.filtersFor options) s.scope with
  | error err =>
    rw [hv] at hrun
    cases hrun
  | ok v =>
    rw [hv] at hrun
    cases hrun
    refine ⟨v, rfl, rfl, rfl, fun h => ?_, fun h => ?_⟩
    · exact Node.prints_of_find? _ _ _ hname hliteral (Scope.find?_setRoot_of_free (hfree.2 h) v)
    · obtain ⟨w, hbefore, hbehind⟩ := Scope.find?_setRoot_of_hidden (mt hfree.1 h) v
      exact ⟨w, hbefore, Node.prints_of_find? _ _ _ hname hliteral hbehind⟩

/-- A template with an assignment in every round of a loop over a variable. -/
def assigningSource (var : String) : String :=
  "\x7b% for " ++ var ++ " in (1..2) %\x7d\x7b% assign x = 5 %\x7d\x7b\x7b x \x7d\x7d\x7b% endfor %\x7d"

/-- An engine without sources. -/
def bare : Engine :=
  ofSources {} []

/-- The state in which the first round of a loop begins, when the loop begins a rendering. -/
def firstRound? (l : Loop) : Option Rendering :=
  match l.visited.run.run ⟨Scope.ofData [] {}, bare.store⟩ with
  | (.ok (item :: items), s) =>
    some (Loop.roundState l.var (items.length + 1) 0 item (s.withScope (Scope.push · [])))
  | _ => none

/-- If a template is a loop over a variable, then the texts of the value that its first round assigns
and of the value that the name has before. -/
def firstAssigned? (var : String) : List Node → Option (String × Option String)
  | [.tag (.loop l) [.tag (.assign x o) _ _ :: _] _] =>
    if l.var = var ∧ x = "x" then do
      let s ← firstRound? l
      match o.eval (bare.filtersFor {}) s.scope with
      | .ok v => return (v.text, (s.scope.find? "x").map Value.text)
      | .error _ => none
    else none
  | _ => none

/-- The first assignment that a rendering of the template comes to. -/
theorem exists_firstAssigned {var : String} {texts : String × Option String}
    (hcheck : (bare.parse none (assigningSource var)).1.toOption.map
      (fun issued => firstAssigned? var issued.template.nodes) = some (some texts)) :
    ∃ issued n o bodies token rest s s' v,
      (bare.parse none (assigningSource var)).1 = .ok issued ∧ bare.Builtin ∧
        issued.template.Builtin ∧
        Framed bare.setup (bare.filtersFor {}) ⟨issued.template, inclusionBound,
          issued.template.nodes, ⟨Scope.ofData [] {}, bare.store⟩⟩ [[var, "forloop"]]
            ⟨issued.template, n + 1, .tag (.assign "x" o) bodies token :: rest, s⟩ ∧
        ((Node.tag (.assign "x" o) bodies token).render (bare.filtersFor {})
          (fetch bare.setup (bare.filtersFor {}) n)).run.run s = (.ok "", s') ∧
        s' = s.withScope (Scope.setRoot · "x" v) ∧ o.eval (bare.filtersFor {}) s.scope = .ok v ∧
        v.text = texts.1 ∧ (s.scope.find? "x").map Value.text = texts.2 := by
  obtain ⟨issued, hparse, h⟩ := exists_ok_of_map_toOption hcheck
  clear hcheck
  have he : bare.Builtin := builtin_ofSources _ _
  have ht : issued.template.Builtin := (he.parse none _).2 issued hparse
  unfold firstAssigned? at h
  split at h
  · next l x o bodies token rest place hnodes =>
    split at h
    · next hvar =>
      obtain ⟨rfl, rfl⟩ := hvar
      obtain ⟨s, hs, h⟩ := Option.bind_eq_some_iff.1 h
      split at h
      · next v hv =>
        cases h
        unfold firstRound? at hs
        split at hs
        · next item items s₁ hvisited =>
          cases hs
          refine ⟨issued, 999999, o, bodies, token, rest, _, _, v, hparse, he, ht, ?_, ?_, rfl, hv,
            rfl, rfl⟩
          · rw [hnodes]
            exact Framed.body .start (.round hvisited .first) rfl
          · rw [Node.run_assign, hv]
        · cases hs
      · cases h
    · cases h
  · cases h

/-- In a loop over another variable, what is assigned is visible behind the tag. -/
theorem assign_visible_bare : ∃ issued n o bodies token rest s s' text,
    (bare.parse none (assigningSource "i")).1 = .ok issued ∧ bare.Builtin ∧
      issued.template.Builtin ∧
      Framed bare.setup (bare.filtersFor {}) ⟨issued.template, inclusionBound,
        issued.template.nodes, ⟨Scope.ofData [] {}, bare.store⟩⟩ [["i", "forloop"]]
          ⟨issued.template, n + 1, .tag (.assign "x" o) bodies token :: rest, s⟩ ∧
      Reading.wordLiteral? "x" = none ∧
      ((Node.tag (.assign "x" o) bodies token).render (bare.filtersFor {})
        (fetch bare.setup (bare.filtersFor {}) n)).run.run s = (.ok text, s') ∧
      ∃ v, o.eval (bare.filtersFor {}) s.scope = .ok v ∧ text = "" ∧
        s' = s.withScope (Scope.setRoot · "x" v) ∧
        (Free (Scope.ofData [] {}) [["i", "forloop"]] "x" → Node.Prints (bare.filtersFor {})
          (fetch bare.setup (bare.filtersFor {}) n) s' "x" v) ∧
        (¬ Free (Scope.ofData [] {}) [["i", "forloop"]] "x" → ∃ w, s.scope.find? "x" = some w ∧
          Node.Prints (bare.filtersFor {}) (fetch bare.setup (bare.filtersFor {}) n) s' "x" w) := by
  have hcheck : (bare.parse none (assigningSource "i")).1.toOption.map (fun issued =>
      firstAssigned? "i" issued.template.nodes) = some (some ("5", none)) := by
    decide +kernel
  obtain ⟨issued, n, o, bodies, token, rest, s, s', v, hparse, he, ht, hreach, hrun, -⟩ :=
    exists_firstAssigned hcheck
  exact ⟨issued, n, o, bodies, token, rest, s, s', _, hparse, he, ht, hreach, rfl, hrun,
    assign_visible he ht hreach rfl hrun⟩

/-- Inside a loop over the name that is assigned, the name keeps the item of the round. -/
theorem assign_hidden : ∃ issued n o bodies token rest s s' v w,
    (bare.parse none (assigningSource "x")).1 = .ok issued ∧ bare.Builtin ∧
      issued.template.Builtin ∧ Reading.wordLiteral? "x" = none ∧
      Relation.ReflTransGen (Leads bare.setup (bare.filtersFor {})) ⟨issued.template,
        inclusionBound, issued.template.nodes, ⟨Scope.ofData [] {}, bare.store⟩⟩
          ⟨issued.template, n + 1, .tag (.assign "x" o) bodies token :: rest, s⟩ ∧
      ((Node.tag (.assign "x" o) bodies token).render (bare.filtersFor {})
        (fetch bare.setup (bare.filtersFor {}) n)).run.run s = (.ok "", s') ∧
      o.eval (bare.filtersFor {}) s.scope = .ok v ∧ v.text = "5" ∧
      s'.scope.find? "x" = some w ∧ w.text = "1" ∧
      (bare.parseAndRender (assigningSource "x") .null).1.toOption = some "12" := by
  have hcheck : (bare.parse none (assigningSource "x")).1.toOption.map (fun issued =>
      firstAssigned? "x" issued.template.nodes) = some (some ("5", some "1")) := by
    decide +kernel
  have hrendered : (bare.parseAndRender (assigningSource "x") .null).1.toOption = some "12" := by
    decide +kernel
  obtain ⟨issued, n, o, bodies, token, rest, s, s', v, hparse, he, ht, hreach, hrun, hs', hv, htext,
    hbefore⟩ := exists_firstAssigned hcheck
  obtain ⟨-, hframes⟩ := hreach.surrounded he.tags ht he.store
  have hhidden : s.scope.inner.findSome? (Dict.find? "x") ≠ none := by
    intro hnone
    exact ((hframes.findSome?_eq_none_iff "x").1 hnone).1 _ (List.mem_cons_self ..)
      (List.mem_cons_self ..)
  obtain ⟨w, hw, hbehind⟩ := Scope.find?_setRoot_of_hidden hhidden v
  rw [hw] at hbefore
  refine ⟨issued, n, o, bodies, token, rest, s, s', v, w, hparse, he, ht, rfl, hreach.reaches, hrun,
    hv, htext, ?_, Option.some.inj hbefore, hrendered⟩
  rw [hs']
  exact hbehind

end Engine

end Stencil
