import Stencil.Proofs.Render.Restoring

/-!
# How an error leaves a point

What is rendered at a point (`Point.run`) ends with the first error in it.  An error in a body that
a tag enters is the outcome of the tag, unless a loop renders the body in a round
(`Head.Enters.run_of_error`); and so is an error in a template that it includes
(`Render.run_inclusion`).  So the outcome at a point is tied to the outcome at each point that it
leads to, whichever of the three ways leads there.
-/

set_option autoImplicit false

namespace Stencil

open Template (fetch renderIn)

/-- A tag renders a body once for each of some items. -/
def Head.Repeats : Head → Nat → Prop
  | loop _, 0 => True
  | _, _ => False

/-- The outcome of rendering the nodes at a point, and the state that is left. -/
def Point.run (setup : Setup) (filters : Filters) (p : Point) : Except Error String × Rendering :=
  (renderIn setup filters p.depth p.nodes).run.run p.state

/-- A sequence ends with the error of its first step. -/
theorem run_bind_of_error {α β : Type} {action : Render α} {s u : Rendering} {e : Error}
    (h : action.run.run s = (.error e, u)) (f : α → Render β) :
    (action >>= f).run.run s = (.error e, u) := by
  rw [run_bind, h]

namespace Render

variable {s : Rendering}

/-- An error without a place gets one. -/
theorem run_located_of_error {action : Render String} {u : Rendering} {e : Error}
    (h : action.run.run s = (.error e, u)) (p : Position) :
    (located p action).run.run s = (.error (e.orAt p), u) := by
  rw [run_located, h]
  rfl

/-- Conditions are followed by the body that they choose. -/
theorem run_firstHolding {conditions : List Condition} {i : Nat} (h : Chosen s.scope conditions i)
    (bodies : List (Render String)) :
    (firstHolding conditions bodies).run.run s = (bodyAt bodies i).run.run s := by
  induction h generalizing bodies with
  | @holds c conditions hc =>
    cases bodies with
    | nil => rfl
    | cons body bodies =>
      rw [firstHolding, run_bind, run_eval, hc]
      rfl
  | @fails c conditions i hc _ ih =>
    cases bodies with
    | nil => rfl
    | cons body bodies =>
      rw [firstHolding, run_bind, run_eval, hc]
      exact ih bodies
  | otherwise => cases bodies <;> rfl

/-- A block whose name has no entry renders its body, and keeps the text. -/
theorem run_block {name : String} {body : Render String}
    (h : (Dict.find? name (s.scope.registerObject blockRegister)).bind Value.string? = none) :
    (block name body).run.run s = (body >>= fun text =>
      modifyScope (·.insertInRegister blockRegister name (.string text)) >>= fun _ =>
        pure text).run.run s := by
  rw [block, run_bind, run_get]
  dsimp only
  rw [h]

/-- A block whose text was kept has that text. -/
theorem run_block_of_text {name text : String}
    (h : (Dict.find? name (s.scope.registerObject blockRegister)).bind Value.string? = some text)
    (body : Render String) : (block name body).run.run s = (.ok text, s) := by
  rw [block, run_bind, run_get]
  dsimp only
  rw [h]
  rfl

/-- An inclusion renders the template that it loads in a frame of its parameters. -/
theorem run_inclusion {setup : Setup} {filters : Filters} {n : Nat} {s₁ s₂ : Rendering}
    {name : Operand} {params : List (String × Operand)} {v : Value} {issued : Issued}
    {frame : Dict Value} (hname : name.eval s.scope = .ok v)
    (hload : (load (setup.getTemplate v.text)).run.run s = (.ok issued, s₁))
    (hframe : (paramFrame params).run.run s₁ = (.ok frame, s₂)) (bodies : List (Render String)) :
    ((Head.inclusion name params).render filters (fetch setup filters n) bodies).run.run s =
      Prod.map id (Rendering.withScope · Scope.pop)
        ((renderIn setup filters n issued.template.nodes).run.run
          (s₂.withScope (Scope.push · frame))) := by
  show (eval name.eval >>= _).run.run s = _
  rw [run_bind, run_eval, hname]
  simp only [fetch, bind_assoc, pure_bind]
  rw [run_bind, hload]
  dsimp only
  rw [run_bind, hframe]
  rfl

end Render

open Render

/-- An error in a body that is not repeated is the outcome of its tag. -/
theorem Head.Enters.run_of_error {filters : Filters} {fetch : String → Render (Render String)}
    {head : Head} {bodies : List (Render String)} {i : Nat} {s s' u : Rendering} {e : Error}
    (h : head.Enters bodies s i s') (honce : ¬ head.Repeats i)
    (hrun : (bodyAt bodies i).run.run s' = (.error e, u)) :
    (head.render filters fetch bodies).run.run s = (.error e, u) := by
  cases h with
  | @block name hnone => exact (run_block hnone).trans (run_bind_of_error hrun _)
  | capture => exact run_bind_of_error hrun _
  | conditional hchosen => exact (run_firstHolding hchosen _).trans hrun
  | @negated c holds hc =>
    show (eval c.eval >>= _).run.run s = _
    rw [run_bind, run_eval, hc]
    cases holds <;> exact hrun
  | @noItems l _ hvisited =>
    show (l.render bodies).run.run s = _
    rw [Loop.render_eq, run_bind, hvisited]
    exact hrun
  | round => exact (honce trivial).elim

section Points

variable {setup : Setup} {filters : Filters} {n : Nat} {s s' u : Rendering} {e : Error}

/-- A tag at a point renders a body by its number, and nothing where it has none. -/
theorem Node.bodyAt_renderBodies_getD (bodies : List (List Node)) (i : Nat) :
    bodyAt (renderBodies filters (fetch setup filters n) bodies) i =
      renderIn setup filters (n + 1) (bodies[i]?.getD []) := by
  rw [bodyAt, renderBodies_eq_map, List.getElem?_map]
  cases bodies[i]? <;> rfl

/-- The first body of a tag is rendered as nodes are, and none renders nothing. -/
theorem Node.bodyAt_renderBodies_zero (bodies : List (List Node)) :
    bodyAt (renderBodies filters (fetch setup filters n) bodies) 0 =
      renderIn setup filters (n + 1) (bodies.headD []) := by
  cases bodies <;> rfl

/-- A body of a tag is rendered as nodes are. -/
theorem Node.bodyAt_renderBodies {i : Nat} {bodies : List (List Node)} {body : List Node}
    (h : bodies[i]? = some body) :
    bodyAt (renderBodies filters (fetch setup filters n) bodies) i =
      renderIn setup filters (n + 1) body := by
  rw [bodyAt_renderBodies_getD, h]
  rfl

variable {t : Template} {rest : List Node}

/-- The text of a node stands in front of what the nodes behind it render. -/
theorem Point.run_cons_of_ok {node : Node} {text : String}
    (h : (node.render filters (fetch setup filters n)).run.run s = (.ok text, s')) :
    run setup filters ⟨t, n + 1, node :: rest, s⟩ =
      (afterOutcome text (run setup filters ⟨t, n + 1, rest, s'⟩).1,
        (run setup filters ⟨t, n + 1, rest, s'⟩).2) := by
  show (node.render filters (fetch setup filters n) >>= _).run.run s = _
  rw [run_bind, h]
  exact run_after ..

/-- A tag that fails ends the rendering of the nodes behind it, too. -/
theorem Point.run_tag_of_error {head : Head} {bodies : List (List Node)} {token : Token}
    (h : (head.render filters (fetch setup filters n)
      (Node.renderBodies filters (fetch setup filters n) bodies)).run.run s = (.error e, u)) :
    run setup filters ⟨t, n + 1, .tag head bodies token :: rest, s⟩ =
      (.error (e.orAt token.position), u) :=
  run_bind_of_error (run_located_of_error h token.position) _

/-- An error in a body that is not repeated ends the nodes around its tag. -/
theorem Point.run_of_body {head : Head} {bodies : List (List Node)} {token : Token} {i : Nat}
    {body : List Node}
    (henters : head.Enters (Node.renderBodies filters (fetch setup filters n) bodies) s i s')
    (honce : ¬ head.Repeats i) (hbody : bodies[i]? = some body)
    (h : run setup filters ⟨t, n + 1, body, s'⟩ = (.error e, u)) :
    run setup filters ⟨t, n + 1, .tag head bodies token :: rest, s⟩ =
      (.error (e.orAt token.position), u) := by
  apply run_tag_of_error
  apply henters.run_of_error honce
  rw [Node.bodyAt_renderBodies hbody]
  exact h

/-- An error in a template that is included ends the nodes around the inclusion. -/
theorem Point.run_of_inclusion {name : Operand} {params : List (String × Operand)}
    {bodies : List (List Node)} {token : Token} {v : Value} {issued : Issued} {frame : Dict Value}
    {s₁ s₂ : Rendering} (hname : name.eval s.scope = .ok v)
    (hload : (load (setup.getTemplate v.text)).run.run s = (.ok issued, s₁))
    (hframe : (paramFrame params).run.run s₁ = (.ok frame, s₂))
    (h : run setup filters
      ⟨issued.template, n + 1, issued.template.nodes, s₂.withScope (Scope.push · frame)⟩ =
        (.error e, u)) :
    run setup filters ⟨t, n + 2, .tag (.inclusion name params) bodies token :: rest, s⟩ =
      (.error (e.orAt token.position), u.withScope Scope.pop) := by
  apply run_tag_of_error
  rw [run_inclusion hname hload hframe]
  exact congrArg (Prod.map id _) h

end Points

end Stencil
