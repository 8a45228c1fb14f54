import Stencil.Engine
import Stencil.Proofs.Expr.Faults

/-!
# Running actions

An action of loading or of rendering that is run in a state has an outcome and leaves a state
behind, whatever the outcome.  These are the outcomes and the states of the actions that others are
made of.
-/

set_option autoImplicit false

namespace Stencil

section Bind

variable {σ α β : Type}

/-- An action that follows another one is run in the state that the other one left, if that did not
fail. -/
theorem run_bind (action : ExceptT Error (StateM σ) α) (f : α → ExceptT Error (StateM σ) β)
    (s : σ) : (action >>= f).run.run s = match action.run.run s with
      | (.ok x, s') => (f x).run.run s'
      | (.error e, s') => (.error e, s') := by
  show (ExceptT.bindCont f (action.run.run s).1).run (action.run.run s).2 = _
  cases action.run.run s with
  | mk r s' => cases r <;> rfl

/-- A sequence fails as one of its steps does, where the second one runs in the state that the first
one leaves. -/
theorem fails_run_bind {p : Error → Prop} {action : ExceptT Error (StateM σ) α}
    {f : α → ExceptT Error (StateM σ) β} {s : σ} (h : Fails p (action.run.run s).1)
    (hf : ∀ x s', action.run.run s = (.ok x, s') → Fails p ((f x).run.run s').1) :
    Fails p ((action >>= f).run.run s).1 := by
  rw [run_bind]
  split
  · next x s' hrun => exact hf x s' hrun
  · next e s' hrun =>
    rw [hrun] at h
    exact .error (h e rfl)

/-- A pure step leaves the state as it is. -/
theorem state_bind_pure (action : ExceptT Error (StateM σ) α) (f : α → β) (s : σ) :
    ((action >>= fun x => pure (f x)).run.run s).2 = (action.run.run s).2 := by
  rw [run_bind]
  cases action.run.run s with
  | mk r s' => cases r <;> rfl

/-- A function on results changes the result of a run only. -/
theorem run_map (f : α → β) (action : ExceptT Error (StateM σ) α) (s : σ) :
    (f <$> action).run.run s = ((action.run.run s).1.map f, (action.run.run s).2) := by
  rw [← bind_pure_comp, run_bind]
  cases action.run.run s with
  | mk r s' => cases r <;> rfl

/-- Asking for the state gives it and leaves it as it is. -/
theorem run_get (s : σ) : (get : ExceptT Error (StateM σ) σ).run.run s = (.ok s, s) :=
  rfl

end Bind

/-- The state with another scope. -/
def Rendering.withScope (s : Rendering) (f : Scope → Scope) : Rendering :=
  { s with scope := f s.scope }

namespace Render

variable {α : Type}

/-- An evaluation sees the scope and changes nothing. -/
theorem run_eval (f : Scope → Except Error α) (s : Rendering) :
    (eval f).run.run s = (f s.scope, s) :=
  rfl

/-- A change of the scope changes nothing else. -/
theorem run_modifyScope (f : Scope → Scope) (s : Rendering) :
    (modifyScope f).run.run s = (.ok (), s.withScope f) :=
  rfl

/-- A place is given to the errors of an action that have none, and nothing else is changed. -/
theorem run_located (p : Position) (action : Render α) (s : Rendering) :
    (located p action).run.run s =
      ((action.run.run s).1.mapError (Error.orAt · p), (action.run.run s).2) :=
  rfl

/-- The outcome of an action with a text in front of it. -/
def afterOutcome (text : String) : Except Error String → Except Error String
  | .ok more => .ok (text ++ more)
  | .error (.interrupt control more) => .error (.interrupt control (text ++ more))
  | .error e => .error e

/-- A text is put in front of what an action renders, also where a signal carries it. -/
theorem run_after (text : String) (action : Render String) (s : Rendering) :
    (after text action).run.run s =
      (afterOutcome text (action.run.run s).1, (action.run.run s).2) := by
  show ((match (action.run.run s).1 with
    | .ok more => pure (.ok (text ++ more))
    | .error (.interrupt control more) => pure (.error (.interrupt control (text ++ more)))
    | .error e => pure (.error e) : StateM Rendering (Except Error String)).run
      (action.run.run s).2) = _
  unfold afterOutcome
  split <;> rfl

/-- The outcome of a round whose body has the given one. -/
def roundOutcome : Except Error String → Except Error (String × Bool)
  | .ok text => .ok (text, true)
  | .error (.interrupt control text) => .ok (text, control == .continue)
  | .error e => .error e

/-- A round of a loop runs as its body does, and its outcome takes in a signal. -/
theorem run_round (action : Render String) (s : Rendering) :
    (round action).run.run s = (roundOutcome (action.run.run s).1, (action.run.run s).2) := by
  show ((match (action.run.run s).1 with
    | .ok text => pure (.ok (text, true))
    | .error (.interrupt control text) => pure (.ok (text, control == .continue))
    | .error e => pure (.error e) : StateM Rendering (Except Error (String × Bool))).run
      (action.run.run s).2) = _
  unfold roundOutcome
  split <;> rfl

/-- An action whose outcome is looked at does not fail. -/
theorem run_outcome (action : Render α) (s : Rendering) :
    (outcome action).run.run s = (.ok (action.run.run s).1, (action.run.run s).2) :=
  rfl

/-- A text in front of what an action renders does not change what the action leaves behind. -/
theorem state_after (text : String) (action : Render String) (s : Rendering) :
    ((after text action).run.run s).2 = (action.run.run s).2 := by
  rw [run_after]

/-- A round of a loop leaves the state that its body does. -/
theorem state_round (action : Render String) (s : Rendering) :
    ((round action).run.run s).2 = (action.run.run s).2 := by
  rw [run_round]

end Render

end Stencil
