import Stencil.Output

/-!
# What goes wrong in expressions

An expression without a value fails with a fault that tells no place, or with a fault of a filter
(`Output.unplaced_eval`).  It is the node around the expression that knows the place.
-/

set_option autoImplicit false

namespace Stencil

/-- If there is no result, then the error has a property. -/
def Fails {α : Type} (p : Error → Prop) (r : Except Error α) : Prop :=
  ∀ e, r = .error e → p e

namespace Fails

variable {α β : Type} {p : Error → Prop}

/-- A result is no error. -/
theorem ok (x : α) : Fails p (.ok x : Except Error α) := by
  intro e he
  cases he

/-- An error of the kind is the only one. -/
theorem error {e : Error} (h : p e) : Fails p (.error e : Except Error α) := by
  rintro _ ⟨⟩
  exact h

/-- Errors of one kind are errors of every wider kind. -/
theorem imp {q : Error → Prop} {r : Except Error α} (h : Fails p r) (hpq : ∀ e, p e → q e) :
    Fails q r :=
  fun e he => hpq e (h e he)

/-- A sequence fails as one of its steps does. -/
theorem bind {r : Except Error α} {f : α → Except Error β} (h : Fails p r)
    (hf : ∀ x, Fails p (f x)) : Fails p (r >>= f) := by
  cases r with
  | error e => exact .error (h e rfl)
  | ok x => exact hf x

/-- A loop over a list fails as one of its rounds does. -/
theorem foldlM {step : β → α → Except Error β} (h : ∀ b a, Fails p (step b a)) (l : List α)
    (b : β) : Fails p (l.foldlM step b) := by
  induction l generalizing b with
  | nil => exact .ok b
  | cons a rest ih =>
    rw [List.foldlM_cons]
    exact (h b a).bind ih

/-- A list is mapped unless one of its entries fails. -/
theorem mapM {f : α → Except Error β} (h : ∀ a, Fails p (f a)) (l : List α) :
    Fails p (l.mapM f) := by
  induction l with
  | nil => exact .ok []
  | cons a rest ih =>
    rw [List.mapM_cons]
    apply (h a).bind
    intro b
    apply ih.bind
    intro bs
    exact .ok _

end Fails

/-- An error of an expression, which tells no place. -/
def Error.IsUnplaced : Error → Prop
  | render _ none => True
  | filter _ _ => True
  | _ => False

/-- A bound of a range that is no number is an error without a place. -/
theorem unplaced_rangeBound (v : Value) : Fails Error.IsUnplaced (rangeBound v) := by
  unfold rangeBound
  cases v with
  | number n => exact .ok _
  | string s =>
    dsimp only
    split
    · exact .ok _
    · exact .error trivial
  | _ => exact .error trivial

section Values

variable (scope : Scope)

mutual

/-- An operand is evaluated to a value or an error without a place. -/
theorem Operand.unplaced_eval (o : Operand) : Fails Error.IsUnplaced (o.eval scope) := by
  cases o with
  | literal v => exact .ok v
  | range first last =>
    rw [Operand.eval]
    apply first.unplaced_eval.bind
    intro v
    apply (unplaced_rangeBound v).bind
    intro _
    apply last.unplaced_eval.bind
    intro w
    apply (unplaced_rangeBound w).bind
    intro _
    exact .ok _
  | path p =>
    rw [Operand.eval]
    apply p.unplaced_find?.bind
    intro found
    cases found with
    | some v => exact .ok v
    | none =>
      dsimp only
      split
      · exact .error trivial
      · exact .ok _

/-- A path is looked up or is an error without a place. -/
theorem Path.unplaced_find? (p : Path) : Fails Error.IsUnplaced (p.find? scope) := by
  cases p with
  | var name => exact .ok _
  | lookup name =>
    rw [Path.find?]
    apply name.unplaced_eval.bind
    intro _
    exact .ok _
  | field base name =>
    rw [Path.find?]
    apply base.unplaced_find?.bind
    intro found
    cases found <;> exact .ok _
  | item base key =>
    rw [Path.find?]
    apply base.unplaced_find?.bind
    intro found
    cases found with
    | none => exact .ok _
    | some v =>
      apply key.unplaced_eval.bind
      intro _
      exact .ok _

end

/-- A condition is evaluated or is an error without a place. -/
theorem Condition.unplaced_eval (c : Condition) : Fails Error.IsUnplaced (c.eval scope) := by
  induction c with
  | test operand =>
    apply (operand.unplaced_eval scope).bind
    intro _
    exact .ok _
  | compare left comparison right =>
    apply (left.unplaced_eval scope).bind
    intro _
    apply (right.unplaced_eval scope).bind
    intro _
    exact .ok _
  | and left right ihl ihr =>
    apply ihl.bind
    intro holds
    cases holds with
    | true => exact ihr
    | false => exact .ok _
  | or left right ihl ihr =>
    apply ihl.bind
    intro holds
    cases holds with
    | true => exact .ok _
    | false => exact ihr

/-- A filter is applied or is an error without a place. -/
theorem Filters.unplaced_apply (filters : Filters) (name : String) (input : Value)
    (args : List Value) : Fails Error.IsUnplaced (filters.apply name input args) := by
  unfold Filters.apply
  split
  · split
    · exact .error trivial
    · exact .ok _
  · split
    · exact .ok _
    · split
      · exact .error trivial
      · exact .ok _
    · exact .error trivial

/-- An output is evaluated to a value or an error without a place. -/
theorem Output.unplaced_eval (filters : Filters) (o : Output) :
    Fails Error.IsUnplaced (o.eval filters scope) := by
  apply (o.operand.unplaced_eval scope).bind
  intro v
  apply Fails.foldlM
  intro input call
  apply (Fails.mapM (fun arg => arg.unplaced_eval scope) call.args).bind
  intro args
  exact filters.unplaced_apply call.name input args

end Values

end Stencil
