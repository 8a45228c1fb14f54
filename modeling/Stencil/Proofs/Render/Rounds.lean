import Stencil.Proofs.Render.Coupling
import Stencil.Proofs.Render.Restoring

/-!
# The rounds of a loop

A loop comes to its rounds one after the other, and behind each of them it has the texts of the
rounds so far (`Loop.Comes`); what it renders in the end is these texts and then what the rounds
that are left render (`Loop.Comes.run_rounds`).  A round that a signal interrupts counts with the
text that the signal carries: on `break` no rounds are left, and on `continue` those behind it
(`Loop.run_rounds_of_interrupt`).  So no signal leaves a loop through its first body, and those that
leave a loop at all come from its second body (`Loop.render_interrupted`).
-/

set_option autoImplicit false

namespace Stencil

/-- A text behind others is put in front of what follows. -/
theorem join_concat_append (texts : List String) (text : String) :
    (String.join (texts ++ [text]) ++ ·) = (String.join texts ++ ·) ∘ (text ++ ·) := by
  funext more
  rw [String.join_append, String.join_cons, String.join_nil, String.append_empty,
    String.append_assoc]
  rfl

section NoSignal

variable {α β : Type}

/-- An outcome that is not a signal. -/
def NoSignal (r : Except Error α) : Prop :=
  ∀ control text, r ≠ .error (.interrupt control text)

/-- A result is no signal. -/
theorem noSignal_ok (x : α) : NoSignal (.ok x : Except Error α) :=
  nofun

/-- A fault is no signal. -/
theorem Fails.noSignal {r : Except Error α} (h : Fails Error.IsFault r) : NoSignal r :=
  fun _ _ he => h _ he

/-- An error without a place is a fault. -/
theorem Error.IsUnplaced.isFault {e : Error} (h : e.IsUnplaced) : e.IsFault := by
  cases e with
  | interrupt => exact h.elim
  | _ => trivial

namespace Render

/-- A signal does not leave a round. -/
theorem faults_round (action : Render String) (s : Rendering) :
    Fails Error.IsFault ((round action).run.run s).1 := by
  rw [run_round]
  unfold roundOutcome
  split
  · exact .ok _
  · exact .ok _
  · next e hne _ =>
    apply Fails.error
    cases e with
    | interrupt control text => exact (hne control text rfl).elim
    | _ => trivial

end Render

namespace Loop

open Render

/-- A count that is none is an error without a place of its own. -/
theorem unplaced_count (operand : Option Operand) (s : Rendering) :
    Fails Error.IsUnplaced ((count operand).run.run s).1 := by
  cases operand with
  | none => exact .ok none
  | some o =>
    rw [count]
    refine fails_run_bind (o.unplaced_eval s.scope) fun v s' _ => ?_
    cases v with
    | number n => exact .ok _
    | null => exact .ok _
    | _ => exact .error trivial

/-- Items that cannot be visited are an error without a place of its own. -/
theorem unplaced_visited (loop : Loop) (s : Rendering) :
    Fails Error.IsUnplaced (loop.visited.run.run s).1 := by
  refine fails_run_bind (loop.collection.unplaced_eval s.scope) fun items s₁ _ => ?_
  refine fails_run_bind (unplaced_count loop.offset s₁) fun offset s₂ _ => ?_
  refine fails_run_bind (unplaced_count loop.limit s₂) fun limit s₃ _ => ?_
  exact .ok _

/-- No signal leaves the rounds of a loop. -/
theorem faults_rounds (var : String) (length index : Nat) (body : Render String)
    (items : List Value) (s : Rendering) :
    Fails Error.IsFault ((rounds var length body index items).run.run s).1 := by
  induction items generalizing index s with
  | nil => exact .ok ""
  | cons item rest ih =>
    rw [rounds]
    refine fails_run_bind (.ok ()) fun _ s₁ _ => ?_
    refine fails_run_bind (faults_round body s₁) fun r s₂ _ => ?_
    obtain ⟨text, goesOn⟩ := r
    cases goesOn with
    | false => exact .ok text
    | true => exact fails_run_bind (ih (index + 1) s₂) fun more s₃ _ => .ok _

/-- A signal that leaves a loop comes from its second body, which is rendered as there are no items.
-/
theorem render_interrupted {l : Loop} {bodies : List (Render String)} {s s' : Rendering}
    {control : LoopControl} {text : String}
    (h : (l.render bodies).run.run s = (.error (.interrupt control text), s')) :
    ∃ s₁, l.visited.run.run s = (.ok [], s₁) ∧
      (bodyAt bodies 1).run.run s₁ = (.error (.interrupt control text), s') := by
  rw [render_eq, run_bind] at h
  cases hvisited : l.visited.run.run s with
  | mk r s₁ =>
    rw [hvisited] at h
    cases r with
    | error e =>
      cases h
      exact (l.unplaced_visited s _ (congrArg Prod.fst hvisited)).isFault.elim
    | ok items =>
      cases items with
      | nil => exact ⟨s₁, rfl, h⟩
      | cons item rest =>
        have hfaults := faults_rounds l.var (item :: rest).length 0 (bodyAt bodies 0) (item :: rest)
          (s₁.withScope (Scope.push · []))
        exact (hfaults.noSignal control text (congrArg Prod.fst h)).elim

end Loop

end NoSignal

namespace Loop

open Render

/-- The rounds of a loop come to those that are left, from an index on, and leave the texts of the
rounds before them behind. -/
inductive Comes (var : String) (length : Nat) (body : Render String) (index : Nat)
    (items : List Value) (s : Rendering) : List String → Nat → List Value → Rendering → Prop
  | start : Comes var length body index items s [] index items s
  | next {texts : List String} {i : Nat} {item : Value} {left : List Value} {u u' : Rendering}
      {text : String} (h : Comes var length body index items s texts i (item :: left) u)
      (hround : (round body).run.run (roundState var length i item u) = (.ok (text, true), u')) :
      Comes var length body index items s (texts ++ [text]) (i + 1) left u'

/-- The rounds that a loop goes on with after a signal. -/
def resume (control : LoopControl) (left : Render String) : Render String :=
  match control with
  | .break => pure ""
  | .continue => left

variable {var text : String} {length index i : Nat} {body : Render String} {items left : List Value}
  {item : Value} {s u u' : Rendering} {texts : List String} {control : LoopControl}

/-- Every body of a round is begun by a round that the loop comes to. -/
theorem Starts.exists_comes {v : Rendering} (h : Starts var length body i left u v)
    (hcomes : Comes var length body index items s texts i left u) :
    ∃ texts i item left u, Comes var length body index items s texts i (item :: left) u ∧
      v = roundState var length i item u := by
  induction h generalizing texts with
  | first => exact ⟨_, _, _, _, _, hcomes, rfl⟩
  | next hround _ ih => exact ih (hcomes.next hround)

/-- Behind a round that goes on, the loop renders its text and the further rounds. -/
theorem run_rounds_of_round
    (h : (round body).run.run (roundState var length i item u) = (.ok (text, true), u')) :
    (rounds var length body i (item :: left)).run.run u =
      ((text ++ ·) <$> rounds var length body (i + 1) left).run.run u' := by
  rw [rounds, run_bind, run_modifyScope]
  show (round body >>= _).run.run (roundState var length i item u) = _
  rw [run_bind, h, ← bind_pure_comp]
  rfl

/-- What the rounds of a loop render is the texts of the ones that the loop has left behind, and
then what the ones that are left render. -/
theorem Comes.run_rounds (h : Comes var length body index items s texts i left u) :
    (rounds var length body index items).run.run s =
      ((String.join texts ++ ·) <$> rounds var length body i left).run.run u := by
  induction h with
  | start =>
    have hid : (fun more => String.join [] ++ more) = id := by
      funext more
      exact String.empty_append
    rw [hid, id_map]
  | @next texts i item left u u' text _ hround ih =>
    rw [ih, run_map, run_rounds_of_round hround, ← run_map, ← comp_map, join_concat_append]

/-- A round that a signal interrupts renders the text of the signal. -/
theorem run_rounds_of_interrupt
    (h : body.run.run (roundState var length i item u) = (.error (.interrupt control text), u')) :
    (rounds var length body i (item :: left)).run.run u =
      ((text ++ ·) <$> resume control (rounds var length body (i + 1) left)).run.run u' := by
  have hround : (round body).run.run (roundState var length i item u) =
      (.ok (text, control == .continue), u') := by
    rw [run_round, h]
    rfl
  cases control with
  | «continue» => exact run_rounds_of_round hround
  | «break» =>
    rw [rounds, run_bind, run_modifyScope]
    show (round body >>= _).run.run (roundState var length i item u) = _
    rw [run_bind, hround]
    show (Except.ok text, u') = (Except.ok (text ++ ""), u')
    rw [String.append_empty]

/-- A round that fails ends the rounds with its error. -/
theorem Starts.run_rounds_of_fault {v w : Rendering} {e : Error}
    (h : Starts var length body index items s v) (hrun : body.run.run v = (.error e, w))
    (he : e.IsFault) : (rounds var length body index items).run.run s = (.error e, w) := by
  induction h with
  | @first index item rest s =>
    have hround : (round body).run.run (roundState var length index item s) = (.error e, w) := by
      rw [run_round, hrun]
      cases e with
      | interrupt => exact he.elim
      | _ => rfl
    rw [rounds, run_bind, run_modifyScope]
    show (round body >>= _).run.run (roundState var length index item s) = _
    rw [run_bind, hround]
  | next hround _ ih =>
    rw [run_rounds_of_round hround, run_map, ih hrun]
    rfl

/-- A loop that comes to a round has an item. -/
theorem Comes.ne_nil (h : Comes var length body index items s texts i (item :: left) u) :
    items ≠ [] := by
  generalize hleft : item :: left = visited at h
  induction h generalizing item left with
  | start =>
    rw [← hleft]
    exact List.cons_ne_nil _ _
  | next _ _ ih => exact ih rfl

/-- When a signal interrupts a round, the loop renders the texts of the rounds before it, the text
of the signal, and then the rounds that it goes on with. -/
theorem run_render_of_interrupt {l : Loop} {bodies : List (Render String)} {s₁ : Rendering}
    (hvisited : l.visited.run.run s = (.ok items, s₁))
    (hcomes : Comes l.var items.length (bodyAt bodies 0) 0 items (s₁.withScope (Scope.push · []))
      texts i (item :: left) u)
    (h : (bodyAt bodies 0).run.run (roundState l.var items.length i item u) =
      (.error (.interrupt control text), u')) :
    (l.render bodies).run.run s = Prod.map id (Rendering.withScope · Scope.pop)
      (((String.join (texts ++ [text]) ++ ·) <$>
        resume control (rounds l.var items.length (bodyAt bodies 0) (i + 1) left)).run.run u') := by
  have hnonempty : ¬ items.isEmpty = true := by
    rw [List.isEmpty_iff]
    exact hcomes.ne_nil
  rw [render_eq, run_bind, hvisited]
  dsimp only
  rw [if_neg hnonempty]
  show Prod.map id (Rendering.withScope · Scope.pop) ((rounds l.var items.length (bodyAt bodies 0) 0
    items).run.run (s₁.withScope (Scope.push · []))) = _
  rw [hcomes.run_rounds, run_map, run_rounds_of_interrupt h, ← run_map, ← comp_map,
    join_concat_append]

end Loop

end Stencil
