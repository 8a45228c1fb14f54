import Stencil.Expr.Eval
import Stencil.Proofs.Expr.Printing

/-!
# Clauses with connectives between them

The texts of clauses with connectives between them are the text of a condition.  Its clauses are
evaluated from the first one on, and the evaluation ends with the first one that settles the answer
or fails (`Joined.eval`): the clauses behind it are read and not evaluated (`evalCondition_joined`).
The connectives are words only where a clause has ended, so those in a string or in the place of a
variable join nothing.
-/

set_option autoImplicit false

namespace Stencil

/-- The connectives of conditions. -/
inductive Connective where
  | and
  | or

namespace Connective

/-- The word for a connective. -/
def word : Connective → String
  | and => "and"
  | or => "or"

/-- The answer of the left side that no right side changes. -/
def settledBy : Connective → Bool
  | and => false
  | or => true

end Connective

/-- The texts of one clause or more, with a connective in front of each but the first. -/
inductive Joined where
  | last (clause : String)
  | join (clause : String) (connective : Connective) (more : Joined)

namespace Joined

/-- The clauses from the first to the last. -/
def clauses : Joined → List String
  | last clause => [clause]
  | join clause _ more => clause :: more.clauses

/-- The clauses and the connectives with single spaces between them. -/
def text : Joined → String
  | last clause => clause
  | join clause connective more => clause ++ " " ++ connective.word ++ " " ++ more.text

/-- Evaluates the clauses in turn.  A clause that fails or that settles the answer is the last one
that is evaluated. -/
def eval (scope : Scope) : Joined → Except Error Bool
  | last clause => evalCondition clause scope
  | join clause connective more => do
    let answer ← evalCondition clause scope
    if answer = connective.settledBy then return answer else more.eval scope

end Joined

/-- A condition without connectives. -/
def Condition.IsClause : Condition → Prop
  | .test _ => True
  | .compare .. => True
  | _ => False

/-- A text is a single clause. -/
def IsClauseText (clause : String) : Prop :=
  ∃ c : Condition, Condition.read clause = .ok c ∧ c.IsClause

open Lexeme

/-- A text is a condition if its lexemes have a derivation as that condition. -/
theorem Condition.read_eq_ok_iff {source : String} {c : Condition} :
    Condition.read source = .ok c ↔
      ∃ t : ConditionTree, lex source.toList = .ok t.lexemes ∧ t.condition = c :=
  (Reading.recognizes_of (fun _ _ _ h => Reading.exists_tree_of_conditionIn h)
    (fun t => Reading.conditionIn_lexemes t (Nat.le_refl _))
    fun _ _ => ConditionTree.lexemes_inj).whole_eq_ok_iff

/-- A clause has a derivation as a clause. -/
theorem IsClauseText.exists_tree {clause : String} (h : IsClauseText clause) :
    ∃ t : ClauseTree, lex clause.toList = .ok t.lexemes := by
  obtain ⟨c, hread, hc⟩ := h
  obtain ⟨t, hlex, rfl⟩ := Condition.read_eq_ok_iff.1 hread
  cases t with
  | clause t => exact ⟨t, hlex⟩
  | and | or => cases hc

/-- A text that is cut into the lexemes of a condition has the value of this condition. -/
theorem evalCondition_of_lex {source : String} {t : ConditionTree}
    (h : lex source.toList = .ok t.lexemes) (scope : Scope) :
    evalCondition source scope = t.condition.eval scope := by
  rw [evalCondition, Condition.read_eq_ok_iff.2 ⟨t, h, rfl⟩]
  rfl

/-- The derivation of a clause with a connective and a condition behind it. -/
def ClauseTree.joined (t : ClauseTree) : Connective → ConditionTree → ConditionTree
  | .and, more => .and t more
  | .or, more => .or t more

/-- A clause that is joined to a condition has its lexemes in front of the connective. -/
theorem ClauseTree.lexemes_joined (t : ClauseTree) (connective : Connective)
    (more : ConditionTree) :
    (t.joined connective more).lexemes = t.lexemes ++ .word connective.word :: more.lexemes := by
  cases connective <;> rfl

/-- The right side of a connective is evaluated if the left side leaves the answer open. -/
theorem ClauseTree.eval_joined (t : ClauseTree) (connective : Connective) (more : ConditionTree)
    (scope : Scope) :
    (t.joined connective more).condition.eval scope = (do
      let answer ← t.condition.eval scope
      if answer = connective.settledBy then return answer else more.condition.eval scope) := by
  cases connective with
  | and =>
    show (Condition.and t.condition more.condition).eval scope = _
    rw [Condition.eval]
    refine bind_congr fun answer => ?_
    cases answer <;> rfl
  | or =>
    show (Condition.or t.condition more.condition).eval scope = _
    rw [Condition.eval]
    refine bind_congr fun answer => ?_
    cases answer <;> rfl

/-- A connective is a word. -/
theorem Connective.isWord_word (connective : Connective) : IsWord connective.word := by
  cases connective with
  | and => exact ⟨'a', ['n', 'd'], by decide, List.all_eq_true.1 (by decide), .inl rfl⟩
  | or => exact ⟨'o', ['r'], by decide, List.all_eq_true.1 (by decide), .inl rfl⟩

/-- A blank in front of a text makes no lexeme. -/
theorem Lexeme.lex_blank (cs : List Char) : lex (' ' :: cs) = lex cs :=
  lex_congr rfl

/-- The lexemes of two texts with a word between them. -/
theorem Lexeme.lex_join {left right w : String} {ls ls' : List Lexeme} (hw : IsWord w)
    (hleft : lex left.toList = .ok ls) (hright : lex right.toList = .ok ls') :
    lex (left ++ " " ++ w ++ " " ++ right).toList = .ok (ls ++ word w :: ls') := by
  have htext : (left ++ " " ++ w ++ " " ++ right).toList =
      left.toList ++ ' ' :: (w.toList ++ ' ' :: right.toList) := by simp
  have hbefore : Cut left.toList ls (' ' :: (w.toList ++ ' ' :: right.toList)) :=
    cut_of_lex hleft (by decide)
  have hword : Cut w.toList [word w] (' ' :: right.toList) :=
    cut_word hw (not_goesOn_blank (by decide) _)
  rw [htext, hbefore, lex_blank, hword, lex_blank, hright]
  rfl

/-- Joined clauses are a condition that is evaluated clause by clause. -/
theorem Joined.exists_tree (j : Joined) (h : ∀ clause ∈ j.clauses, IsClauseText clause) :
    ∃ t : ConditionTree, lex j.text.toList = .ok t.lexemes ∧
      ∀ scope, t.condition.eval scope = j.eval scope := by
  induction j with
  | last clause =>
    obtain ⟨t, hlex⟩ := (h clause (List.mem_singleton_self _)).exists_tree
    exact ⟨.clause t, hlex, fun scope => (evalCondition_of_lex (t := .clause t) hlex scope).symm⟩
  | join clause connective more ih =>
    obtain ⟨t, hlex⟩ := (h clause (List.mem_cons_self ..)).exists_tree
    obtain ⟨t', hlex', heval⟩ := ih fun c hc => h c (List.mem_cons_of_mem _ hc)
    refine ⟨t.joined connective t', ?_, fun scope => ?_⟩
    · rw [ClauseTree.lexemes_joined]
      exact lex_join connective.isWord_word hlex hlex'
    · rw [ClauseTree.eval_joined, Joined.eval, heval, evalCondition_of_lex (t := .clause t) hlex]
      rfl

/-- Connectives bind to the right, and what stands behind a clause that settles the answer or fails
is not evaluated, whatever the scope. -/
theorem evalCondition_joined (j : Joined) (h : ∀ clause ∈ j.clauses, IsClauseText clause)
    (scope : Scope) : evalCondition j.text scope = j.eval scope := by
  obtain ⟨t, hlex, heval⟩ := j.exists_tree h
  rw [evalCondition_of_lex hlex, heval]

/-- A text that is cut into the lexemes of a clause is the text of a clause. -/
theorem isClauseText_of_lex {clause : String} {t : ClauseTree}
    (h : lex clause.toList = .ok t.lexemes) : IsClauseText clause := by
  refine ⟨t.condition, Condition.read_eq_ok_iff.2 ⟨.clause t, h, rfl⟩, ?_⟩
  cases t <;> exact trivial

/-- A connective in a string, a variable with the name of a connective, and a variable that is not
defined. -/
def settledClauses : Joined :=
  .join "'x or y'" .and (.join "or" .and (.last "missing"))

/-- A clause settles the condition, so that the missing variable behind it is no error even in
strict mode; words in a string and in the place of a clause are no connectives. -/
theorem evalCondition_joined_settled :
    settledClauses.text = "'x or y' and or and missing" ∧
      evalCondition settledClauses.text { root := [("or", .bool false)], strict := true } =
        .ok false := by
  have hstring : lex "'x or y'".toList = .ok (ClauseTree.test (.string "x or y")).lexemes := by
    have hspells := spells_string (s := ['x', ' ', 'o', 'r', ' ', 'y']) (.inr rfl) (by decide)
    have hcut : Cut "'x or y'".toList [string "x or y"] [] := cut_of_spells hspells nofun
    exact hcut.lex
  have hor : lex "or".toList = .ok (ClauseTree.test (.named "or" (by decide) .stop)).lexemes :=
    (cut_word Connective.or.isWord_word (endsText_nil _ nofun)).lex
  have hmissing : IsWord "missing" :=
    ⟨'m', ['i', 's', 's', 'i', 'n', 'g'], by decide, List.all_eq_true.1 (by decide), .inl rfl⟩
  have hlast : lex "missing".toList =
      .ok (ClauseTree.test (.named "missing" (by decide) .stop)).lexemes :=
    (cut_word hmissing (endsText_nil _ nofun)).lex
  have hclauses : ∀ clause ∈ settledClauses.clauses, IsClauseText clause := by
    simp [settledClauses, Joined.clauses, isClauseText_of_lex hstring, isClauseText_of_lex hor,
      isClauseText_of_lex hlast]
  refine ⟨by decide +kernel, ?_⟩
  rw [evalCondition_joined settledClauses hclauses, settledClauses, Joined.eval, Joined.eval,
    evalCondition_of_lex (t := .clause _) hstring, evalCondition_of_lex (t := .clause _) hor]
  rfl

end Stencil
