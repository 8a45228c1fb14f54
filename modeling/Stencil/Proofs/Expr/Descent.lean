import Stencil.Proofs.Expr.Grammar
import Stencil.Proofs.Node.Shape

/-!
# The readers of expressions and their grammar

Each reader takes from the front of the lexemes what the grammar of its kind derives.  What a
reader answers has a derivation that spells the lexemes taken (`exists_tree_of_…`), and the lexemes
of a derivation are taken whole if nothing behind them goes on with it (`…_append`).  The number of
lexemes bounds the depth of a derivation, so no reader stops for want of steps.  Used on all of some
lexemes, the readers of operands, outputs and conditions therefore recognize their grammars
(`Recognizes`).
-/

set_option autoImplicit false

namespace Stencil

namespace Reading

/-- A mark that is expected is taken. -/
theorem expect_punct (p : Punct) (rest : List Lexeme) : expect p (.punct p :: rest) = .ok rest := by
  simp [expect]

/-- Only the mark that is expected is taken. -/
theorem eq_of_expect {p : Punct} {ls rest : List Lexeme} (h : expect p ls = .ok rest) :
    ls = .punct p :: rest := by
  unfold expect at h
  split at h
  · cases h
  · split at h
    · next heq =>
      cases h
      rw [heq]
    · cases h
  · cases h

/-- A name is taken off a text that begins with this word. -/
theorem eq_of_name {w : String} {ls rest : List Lexeme} (h : name ls = .ok (w, rest)) :
    ls = .word w :: rest := by
  unfold name at h
  split at h
  · cases h
  · cases h
    rfl
  · cases h

/-- The end is only reached when nothing is left. -/
theorem eq_nil_of_finish {ls : List Lexeme} (h : finish ls = .ok ()) : ls = [] := by
  unfold finish at h
  split at h
  · rfl
  · cases h

/-- A word that is none of the literal ones stands for no literal. -/
theorem wordLiteral?_eq_none {w : String} (h : w ∉ literalWords) : wordLiteral? w = none := by
  unfold wordLiteral?
  split <;> simp_all [literalWords]

/-- A word is a literal or the name of a variable. -/
theorem wordLiteral?_cases (w : String) :
    (∃ t : OperandTree, ∃ v, wordLiteral? w = some v ∧ t.operand = .literal v ∧
      t.lexemes = [.word w]) ∨ (wordLiteral? w = none ∧ w ∉ literalWords) := by
  by_cases h : w ∈ literalWords
  · left
    simp only [literalWords, List.mem_cons, List.not_mem_nil, or_false] at h
    obtain rfl | rfl | rfl | rfl := h
    · exact ⟨.true, _, rfl, rfl, rfl⟩
    · exact ⟨.false, _, rfl, rfl, rfl⟩
    · exact ⟨.nil, _, rfl, rfl, rfl⟩
    · exact ⟨.null, _, rfl, rfl, rfl⟩
  · exact .inr ⟨wordLiteral?_eq_none h, h⟩

/-- A natural number of 64 bits is the key with its digits. -/
theorem numberKey?_natCast {n : Nat} (h : Number.isUnsigned64 n = true) :
    numberKey? (.int n) = some (Decimal.natText n) := by
  simp [numberKey?, Number.unsigned64?, h]

/-- Only natural numbers of 64 bits are keys. -/
theorem exists_of_numberKey? {m : Number} {key : String} (h : numberKey? m = some key) :
    ∃ n : Nat, Number.isUnsigned64 n = true ∧ m = .int n ∧ key = Decimal.natText n := by
  cases m with
  | float x => cases h
  | int i =>
    simp only [numberKey?, Number.unsigned64?] at h
    split at h
    · next hfits =>
      cases h
      have hnonneg : 0 ≤ i := by
        simp only [Number.isUnsigned64, decide_eq_true_eq] at hfits
        exact hfits.1
      rw [← Int.toNat_of_nonneg hnonneg] at hfits
      exact ⟨i.toNat, hfits, by rw [Int.toNat_of_nonneg hnonneg], rfl⟩
    · cases h

/-- What the reader of operands answers from at most `n` lexemes has a derivation. -/
def OperandsDerived (n : Nat) : Prop :=
  ∀ ls result rest, operandIn n ls = .ok (result, rest) →
    ∃ t : OperandTree, t.operand = result ∧ t.lexemes ++ rest = ls

/-- What the reader of the further steps of a path answers from at most `n` lexemes has a
derivation. -/
def StepsDerived (n : Nat) : Prop :=
  ∀ p ls result rest, stepsIn n p ls = .ok (result, rest) →
    ∃ t : SuffixTree, .path (t.path p) = result ∧ t.lexemes ++ rest = ls

/-- Operands are derived with one more step if operands and the steps behind a path are. -/
theorem operandsDerived_succ {n : Nat} (hoperand : OperandsDerived n) (hsteps : StepsDerived n) :
    OperandsDerived (n + 1) := by
  intro ls result rest h
  unfold operandIn at h
  split at h
  · cases h
  · cases h
  · cases h
    exact ⟨.string _, rfl, rfl⟩
  · cases h
    exact ⟨.number _, rfl, rfl⟩
  · next w after heq =>
    cases heq
    obtain ⟨t, v, hv, hliteral, hlexemes⟩ | ⟨hnone, hw⟩ := wordLiteral?_cases w
    · rw [hv] at h
      cases h
      exact ⟨t, hliteral, by rw [hlexemes]; rfl⟩
    · rw [hnone] at h
      obtain ⟨suffix, rfl, rfl⟩ := hsteps _ _ _ _ h
      exact ⟨.named w hw suffix, rfl, rfl⟩
  · next after heq =>
    cases heq
    obtain ⟨⟨first, behindFirst⟩, hfirst, hdo⟩ := ok_of_bind_eq_ok h
    obtain ⟨behindDots, hdots, hdo⟩ := ok_of_bind_eq_ok hdo
    obtain ⟨⟨last, behindLast⟩, hlast, hdo⟩ := ok_of_bind_eq_ok hdo
    obtain ⟨behindParen, hparen, hdo⟩ := ok_of_bind_eq_ok hdo
    cases hdo
    obtain ⟨t, rfl, rfl⟩ := hoperand _ _ _ hfirst
    obtain rfl := eq_of_expect hdots
    obtain ⟨t', rfl, rfl⟩ := hoperand _ _ _ hlast
    obtain rfl := eq_of_expect hparen
    exact ⟨.range t t', rfl, by simp [OperandTree.lexemes]⟩
  · next after heq =>
    cases heq
    obtain ⟨⟨key, behindKey⟩, hkey, hdo⟩ := ok_of_bind_eq_ok h
    obtain ⟨behindBracket, hbracket, hmore⟩ := ok_of_bind_eq_ok hdo
    obtain ⟨t, rfl, rfl⟩ := hoperand _ _ _ hkey
    obtain rfl := eq_of_expect hbracket
    obtain ⟨suffix, rfl, rfl⟩ := hsteps _ _ _ _ hmore
    exact ⟨.lookup t suffix, rfl, by simp [OperandTree.lexemes]⟩
  · cases h

/-- The steps behind a path are derived with one more step if operands and these steps are. -/
theorem stepsDerived_succ {n : Nat} (hoperand : OperandsDerived n) (hsteps : StepsDerived n) :
    StepsDerived (n + 1) := by
  intro p ls result rest h
  unfold stepsIn at h
  split at h
  · next hn => cases hn
  · next hn =>
    cases hn
    split at h
    · cases h
    · next w after =>
      obtain ⟨t, rfl, rfl⟩ := hsteps _ _ _ _ h
      exact ⟨.field w t, rfl, rfl⟩
    · next m after =>
      split at h
      · next key hkey =>
        obtain ⟨k, hk, rfl, rfl⟩ := exists_of_numberKey? hkey
        obtain ⟨t, rfl, rfl⟩ := hsteps _ _ _ _ h
        exact ⟨.place k hk t, rfl, rfl⟩
      · cases h
    · cases h
  · next hn =>
    cases hn
    obtain ⟨⟨key, behindKey⟩, hkey, hdo⟩ := ok_of_bind_eq_ok h
    obtain ⟨behindBracket, hbracket, hmore⟩ := ok_of_bind_eq_ok hdo
    obtain ⟨t, rfl, rfl⟩ := hoperand _ _ _ hkey
    obtain rfl := eq_of_expect hbracket
    obtain ⟨suffix, rfl, rfl⟩ := hsteps _ _ _ _ hmore
    exact ⟨.item t suffix, rfl, by simp [SuffixTree.lexemes]⟩
  · cases h
    exact ⟨.stop, rfl, rfl⟩

/-- Whatever is read as an operand or as the steps behind a path is derived in the grammar. -/
theorem operandsDerived_and_stepsDerived (n : Nat) : OperandsDerived n ∧ StepsDerived n := by
  induction n with
  | zero =>
    constructor
    · intro ls result rest h
      cases ls <;> cases h
    · intro p ls result rest h
      cases h
      exact ⟨.stop, rfl, rfl⟩
  | succ n ih => exact ⟨operandsDerived_succ ih.1 ih.2, stepsDerived_succ ih.1 ih.2⟩

/-- What is read as an operand is one of the grammar. -/
theorem exists_tree_of_operand {ls rest : List Lexeme} {result : Operand}
    (h : operand ls = .ok (result, rest)) :
    ∃ t : OperandTree, t.operand = result ∧ t.lexemes ++ rest = ls :=
  (operandsDerived_and_stepsDerived ls.length).1 ls result rest h

mutual

/-- An operand of the grammar is read up to where no path goes on. -/
theorem operandIn_append (t : OperandTree) {n : Nat} {rest : List Lexeme}
    (hn : t.lexemes.length ≤ n) (h : EndsPath rest) :
    operandIn n (t.lexemes ++ rest) = .ok (t.operand, rest) := by
  cases n with
  | zero => cases t <;> simp [OperandTree.lexemes] at hn
  | succ n =>
    cases t with
    | string s => rfl
    | number m => rfl
    | true => rfl
    | false => rfl
    | nil => rfl
    | null => rfl
    | range first last =>
      simp only [OperandTree.lexemes, List.length_cons, List.length_append] at hn
      have hbehind : EndsPath (.punct .range :: (last.lexemes ++ .punct .closeParen :: rest)) :=
        endsPath_punct (by decide) (by decide)
      have hclose : EndsPath (.punct .closeParen :: rest) :=
        endsPath_punct (by decide) (by decide)
      have hfirst := operandIn_append first (n := n) (by omega) hbehind
      have hlast := operandIn_append last (n := n) (by omega) hclose
      simp only [OperandTree.lexemes, List.cons_append, List.append_assoc, List.nil_append,
        operandIn, hfirst, hlast, bind, Except.bind, expect_punct]
      rfl
    | named w hw suffix =>
      simp only [OperandTree.lexemes, List.length_cons] at hn
      have hsuffix := stepsIn_append suffix (n := n) (.var w) (by omega) h
      simp [OperandTree.lexemes, OperandTree.operand, operandIn, wordLiteral?_eq_none hw, hsuffix]
    | lookup key suffix =>
      simp only [OperandTree.lexemes, List.length_cons, List.length_append] at hn
      have hclose : EndsPath (.punct .closeBracket :: (suffix.lexemes ++ rest)) :=
        endsPath_punct (by decide) (by decide)
      have hkey := operandIn_append key (n := n) (by omega) hclose
      have hsuffix := stepsIn_append suffix (n := n) (.lookup key.operand) (by omega) h
      simp only [OperandTree.lexemes, List.cons_append, List.append_assoc, operandIn, hkey, bind,
        Except.bind, expect_punct, hsuffix]
      rfl

/-- The steps behind a path are read up to where no path goes on. -/
theorem stepsIn_append (t : SuffixTree) {n : Nat} {rest : List Lexeme} (p : Path)
    (hn : t.lexemes.length ≤ n) (h : EndsPath rest) :
    stepsIn n p (t.lexemes ++ rest) = .ok (.path (t.path p), rest) := by
  cases t with
  | stop =>
    cases n with
    | zero => rfl
    | succ n =>
      unfold stepsIn
      split <;> simp_all [SuffixTree.lexemes, EndsPath, SuffixTree.path]
  | field w more =>
    cases n with
    | zero => simp [SuffixTree.lexemes] at hn
    | succ n =>
      simp only [SuffixTree.lexemes, List.length_cons] at hn
      have hmore := stepsIn_append more (n := n) (.field p w) (by omega) h
      simp [SuffixTree.lexemes, SuffixTree.path, stepsIn, hmore]
  | place k hk more =>
    cases n with
    | zero => simp [SuffixTree.lexemes] at hn
    | succ n =>
      simp only [SuffixTree.lexemes, List.length_cons] at hn
      have hmore := stepsIn_append more (n := n) (.field p (Decimal.natText k)) (by omega) h
      simp [SuffixTree.lexemes, SuffixTree.path, stepsIn, numberKey?_natCast hk, hmore]
  | item key more =>
    cases n with
    | zero => simp [SuffixTree.lexemes] at hn
    | succ n =>
      simp only [SuffixTree.lexemes, List.length_cons, List.length_append] at hn
      have hclose : EndsPath (.punct .closeBracket :: (more.lexemes ++ rest)) :=
        endsPath_punct (by decide) (by decide)
      have hkey := operandIn_append key (n := n) (by omega) hclose
      have hmore := stepsIn_append more (n := n) (.item p key.operand) (by omega) h
      simp only [SuffixTree.lexemes, List.cons_append, List.append_assoc, stepsIn, hkey, bind,
        Except.bind, expect_punct, hmore]
      rfl

end

/-- The lexemes of an operand are taken whole, if no path goes on behind them. -/
theorem operand_append (t : OperandTree) {rest : List Lexeme} (h : EndsPath rest) :
    operand (t.lexemes ++ rest) = .ok (t.operand, rest) :=
  operandIn_append t (by simp) h

/-! ## Filters -/

/-- What is read as arguments are operands of the grammar with commas between them. -/
theorem exists_trees_of_argumentsIn {n : Nat} {ls rest : List Lexeme} {args : List Operand}
    (h : argumentsIn n ls = .ok (args, rest)) :
    ∃ (first : OperandTree) (more : List OperandTree),
      first.operand :: more.map OperandTree.operand = args ∧
      first.lexemes ++ (FilterTree.furtherLexemes more ++ rest) = ls := by
  induction n generalizing ls args with
  | zero => cases h
  | succ n ih =>
    obtain ⟨⟨a, behind⟩, hfirst, hdo⟩ := ok_of_bind_eq_ok h
    obtain ⟨t, rfl, rfl⟩ := exists_tree_of_operand hfirst
    dsimp only at hdo
    split at hdo
    · obtain ⟨⟨further, behindMore⟩, hmore, hdo⟩ := ok_of_bind_eq_ok hdo
      cases hdo
      obtain ⟨t', more, rfl, rfl⟩ := ih hmore
      exact ⟨t, t' :: more, rfl, by simp [FilterTree.furtherLexemes_cons]⟩
    · cases hdo
      exact ⟨t, [], rfl, rfl⟩

/-- Operands with commas between them are read as arguments, if the bound allows it. -/
theorem argumentsIn_append (first : OperandTree) (more : List OperandTree) {n : Nat}
    {rest : List Lexeme} (hn : more.length < n) (h : EndsFilter rest) :
    argumentsIn n (first.lexemes ++ (FilterTree.furtherLexemes more ++ rest)) =
      .ok (first.operand :: more.map OperandTree.operand, rest) := by
  induction more generalizing first n with
  | nil =>
    obtain ⟨n, rfl⟩ := Nat.exists_eq_add_of_lt hn
    have hfirst := operand_append first h.path
    simp only [FilterTree.furtherLexemes, List.flatMap_nil, List.nil_append, argumentsIn, hfirst,
      bind, Except.bind]
    split
    · exact absurd rfl h.comma
    · rfl
  | cons second more ih =>
    obtain ⟨n, rfl⟩ := Nat.exists_eq_add_of_lt hn
    have hfirst := operand_append first (FilterTree.endsPath_furtherLexemes (second :: more) h)
    have hmore := ih second (n := more.length + 1 + n) (by omega)
    rw [List.length_cons, argumentsIn, hfirst]
    simp only [FilterTree.furtherLexemes_cons, List.cons_append, List.append_assoc, bind,
      Except.bind, hmore]
    rfl

/-- Operands with commas between them are read as arguments. -/
theorem arguments_append (first : OperandTree) (more : List OperandTree) {rest : List Lexeme}
    (h : EndsFilter rest) :
    arguments (first.lexemes ++ (FilterTree.furtherLexemes more ++ rest)) =
      .ok (first.operand :: more.map OperandTree.operand, rest) := by
  refine argumentsIn_append first more ?_ h
  have hmore := FilterTree.length_le_length_furtherLexemes more
  simp only [List.length_append]
  omega

/-- What is read as filters are filters of the grammar. -/
theorem exists_trees_of_filtersIn {n : Nat} {ls rest : List Lexeme} {calls : List FilterCall}
    (h : filtersIn n ls = .ok (calls, rest)) :
    ∃ filters : List FilterTree, filters.map FilterTree.call = calls ∧
      filters.flatMap FilterTree.lexemes ++ rest = ls := by
  induction n generalizing ls calls with
  | zero =>
    cases h
    exact ⟨[], rfl, rfl⟩
  | succ n ih =>
    unfold filtersIn at h
    split at h
    · next hn => cases hn
    · next hn =>
      cases hn
      obtain ⟨⟨w, behindName⟩, hname, hdo⟩ := ok_of_bind_eq_ok h
      obtain rfl := eq_of_name hname
      dsimp only at hdo
      split at hdo
      · obtain ⟨⟨args, behindArgs⟩, hargs, hdo⟩ := ok_of_bind_eq_ok hdo
        obtain ⟨⟨further, behindMore⟩, hmore, hdo⟩ := ok_of_bind_eq_ok hdo
        cases hdo
        obtain ⟨filters, rfl, rfl⟩ := ih hmore
        obtain ⟨first, more, rfl, rfl⟩ := exists_trees_of_argumentsIn hargs
        exact ⟨.applied w first more :: filters, rfl, by simp [FilterTree.lexemes]⟩
      · obtain ⟨_, hnone, hdo⟩ := ok_of_bind_eq_ok hdo
        cases hnone
        obtain ⟨⟨further, behindMore⟩, hmore, hdo⟩ := ok_of_bind_eq_ok hdo
        cases hdo
        obtain ⟨filters, rfl, rfl⟩ := ih hmore
        exact ⟨.plain w :: filters, rfl, by simp [FilterTree.lexemes]⟩
    · cases h
      exact ⟨[], rfl, rfl⟩

/-- Filters of the grammar are read one after the other. -/
theorem filtersIn_flatMap (filters : List FilterTree) {n : Nat} (hn : filters.length ≤ n) :
    filtersIn n (filters.flatMap FilterTree.lexemes) = .ok (filters.map FilterTree.call, []) := by
  induction filters generalizing n with
  | nil => cases n <;> rfl
  | cons t filters ih =>
    obtain ⟨n, rfl⟩ := Nat.exists_eq_add_of_lt (Nat.lt_of_lt_of_le (Nat.lt_succ_self _) hn)
    have hends := FilterTree.endsFilter_flatMap filters
    have hmore := ih (n := filters.length + n) (by omega)
    cases t with
    | plain w =>
      simp only [List.flatMap_cons, FilterTree.lexemes, List.cons_append, List.nil_append,
        filtersIn, name, bind, Except.bind]
      split
      · next heq => exact absurd (congrArg List.head? heq) hends.colon
      · rw [hmore]
        rfl
    | applied w first more =>
      have hargs := arguments_append first more hends
      simp only [List.flatMap_cons, FilterTree.lexemes, List.cons_append, List.append_assoc,
        filtersIn, name, bind, Except.bind, hargs]
      rw [hmore]
      rfl

/-! ## Conditions -/

/-- The sign of a comparison is read as it. -/
theorem comparison?_lexeme (s : ComparisonSign) : comparison? s.lexeme = some s.comparison := by
  cases s <;> rfl

/-- Only the sign of a comparison is read as one. -/
theorem exists_sign_of_comparison? {l : Lexeme} {c : Comparison} (h : comparison? l = some c) :
    ∃ s : ComparisonSign, s.lexeme = l ∧ s.comparison = c := by
  unfold comparison? at h
  split at h
  · cases h; exact ⟨.equal, rfl, rfl⟩
  · cases h; exact ⟨.notEqual, rfl, rfl⟩
  · cases h; exact ⟨.lessOrGreater, rfl, rfl⟩
  · cases h; exact ⟨.less, rfl, rfl⟩
  · cases h; exact ⟨.greater, rfl, rfl⟩
  · cases h; exact ⟨.lessEqual, rfl, rfl⟩
  · cases h; exact ⟨.greaterEqual, rfl, rfl⟩
  · split at h
    · next hw => cases h; exact ⟨.contains, by rw [hw]; rfl, rfl⟩
    · cases h
  · cases h

/-- What is read as a clause is one of the grammar. -/
theorem exists_tree_of_clause {ls rest : List Lexeme} {result : Condition}
    (h : clause ls = .ok (result, rest)) :
    ∃ t : ClauseTree, t.condition = result ∧ t.lexemes ++ rest = ls := by
  obtain ⟨⟨left, behind⟩, hleft, hdo⟩ := ok_of_bind_eq_ok h
  obtain ⟨t, rfl, rfl⟩ := exists_tree_of_operand hleft
  dsimp only at hdo
  split at hdo
  · cases hdo
    exact ⟨.test t, rfl, rfl⟩
  · split at hdo
    · cases hdo
      exact ⟨.test t, rfl, rfl⟩
    · next hsign =>
      obtain ⟨⟨right, behindRight⟩, hright, hdo⟩ := ok_of_bind_eq_ok hdo
      cases hdo
      obtain ⟨t', rfl, rfl⟩ := exists_tree_of_operand hright
      obtain ⟨s, rfl, rfl⟩ := exists_sign_of_comparison? hsign
      exact ⟨.compare t s t', rfl, by simp [ClauseTree.lexemes]⟩

/-- A clause of the grammar is read up to where no clause goes on. -/
theorem clause_append (t : ClauseTree) {rest : List Lexeme} (h : EndsClause rest) :
    clause (t.lexemes ++ rest) = .ok (t.condition, rest) := by
  cases t with
  | test a =>
    have hleft : operand (a.lexemes ++ rest) = .ok (a.operand, rest) := operand_append a h.path
    simp only [ClauseTree.lexemes, clause, hleft, bind, Except.bind]
    split
    · rfl
    · split
      · rfl
      · next l after c hsign =>
        obtain ⟨s, rfl, -⟩ := exists_sign_of_comparison? hsign
        exact absurd rfl (h.sign s)
  | compare a s b =>
    have hleft := operand_append a (ClauseTree.endsPath_sign s (b.lexemes ++ rest))
    have hright := operand_append b h.path
    simp only [ClauseTree.lexemes, List.append_assoc, List.cons_append, clause, hleft, bind,
      Except.bind, comparison?_lexeme, hright]
    rfl

/-- What is read as a condition is one of the grammar. -/
theorem exists_tree_of_conditionIn {n : Nat} {ls rest : List Lexeme} {result : Condition}
    (h : conditionIn n ls = .ok (result, rest)) :
    ∃ t : ConditionTree, t.condition = result ∧ t.lexemes ++ rest = ls := by
  induction n generalizing ls result with
  | zero =>
    obtain ⟨t, rfl, rfl⟩ := exists_tree_of_clause h
    exact ⟨.clause t, rfl, rfl⟩
  | succ n ih =>
    obtain ⟨⟨left, behind⟩, hleft, hdo⟩ := ok_of_bind_eq_ok h
    obtain ⟨t, rfl, rfl⟩ := exists_tree_of_clause hleft
    dsimp only at hdo
    split at hdo
    · split at hdo
      · next hw =>
        obtain ⟨⟨right, behindRight⟩, hright, hdo⟩ := ok_of_bind_eq_ok hdo
        cases hdo
        obtain ⟨t', rfl, rfl⟩ := ih hright
        exact ⟨.and t t', rfl, by simp [ConditionTree.lexemes, hw]⟩
      · split at hdo
        · next hw =>
          obtain ⟨⟨right, behindRight⟩, hright, hdo⟩ := ok_of_bind_eq_ok hdo
          cases hdo
          obtain ⟨t', rfl, rfl⟩ := ih hright
          exact ⟨.or t t', rfl, by simp [ConditionTree.lexemes, hw]⟩
        · cases hdo
          exact ⟨.clause t, rfl, rfl⟩
    · cases hdo
      exact ⟨.clause t, rfl, rfl⟩

/-- The first clause of a condition is read up to the first connective. -/
theorem clause_lexemes (t : ConditionTree) :
    clause t.lexemes = .ok (t.first.condition, t.tail) := by
  rw [t.lexemes_eq]
  exact clause_append t.first t.endsClause_tail

/-- A condition of the grammar is read as a whole, if the bound allows it. -/
theorem conditionIn_lexemes (t : ConditionTree) {n : Nat} (hn : t.lexemes.length ≤ n) :
    conditionIn n t.lexemes = .ok (t.condition, []) := by
  induction t generalizing n with
  | clause first =>
    have hfirst := clause_lexemes (.clause first)
    cases n with
    | zero => exact hfirst
    | succ n =>
      rw [conditionIn, hfirst]
      rfl
  | and first more ih =>
    cases n with
    | zero => simp [ConditionTree.lexemes] at hn
    | succ n =>
      simp only [ConditionTree.lexemes, List.length_append, List.length_cons] at hn
      rw [conditionIn, clause_lexemes]
      simp only [bind, Except.bind, ConditionTree.tail, if_true, ih (n := n) (by omega)]
      rfl
  | or first more ih =>
    cases n with
    | zero => simp [ConditionTree.lexemes] at hn
    | succ n =>
      simp only [ConditionTree.lexemes, List.length_append, List.length_cons] at hn
      rw [conditionIn, clause_lexemes]
      simp only [bind, Except.bind, ConditionTree.tail, ih (n := n) (by omega)]
      rfl

/-- What is read as an operand with filters is one of the grammar. -/
theorem exists_tree_of_piped {ls rest : List Lexeme} {result : Operand × List FilterCall}
    (h : piped ls = .ok (result, rest)) :
    ∃ t : OutputTree, t.piped = result ∧ t.lexemes ++ rest = ls := by
  obtain ⟨⟨a, behind⟩, hoperand, hdo⟩ := ok_of_bind_eq_ok h
  obtain ⟨⟨calls, behindFilters⟩, hfilters, hdo⟩ := ok_of_bind_eq_ok hdo
  cases hdo
  obtain ⟨t, rfl, rfl⟩ := exists_tree_of_operand hoperand
  obtain ⟨filters, rfl, rfl⟩ := exists_trees_of_filtersIn hfilters
  exact ⟨⟨t, filters⟩, rfl, List.append_assoc _ _ _⟩

/-- An operand with filters of the grammar is read as a whole. -/
theorem piped_lexemes (t : OutputTree) : piped t.lexemes = .ok (t.piped, []) := by
  have hoperand := operand_append t.operand (FilterTree.endsFilter_flatMap t.filters).path
  have hfilters : filters (t.filters.flatMap FilterTree.lexemes) =
      .ok (t.filters.map FilterTree.call, []) :=
    filtersIn_flatMap t.filters (FilterTree.length_le_length_flatMap t.filters)
  simp only [piped, OutputTree.lexemes, hoperand, bind, Except.bind, hfilters]
  rfl

/-! ## Whole lists of lexemes -/

section Whole

variable {α T : Type} {reader : List Lexeme → Except ExprFault (α × List Lexeme)}

/-- The expression that all of some lexemes are. -/
def exactly (reader : List Lexeme → Except ExprFault (α × List Lexeme)) (ls : List Lexeme) :
    Except ExprFault α := do
  let (result, rest) ← reader ls
  finish rest
  return result

/-- A text is read exactly when its reader leaves nothing. -/
theorem exactly_eq_ok_iff {ls : List Lexeme} {result : α} :
    exactly reader ls = .ok result ↔ reader ls = .ok (result, []) := by
  constructor
  · intro h
    obtain ⟨⟨a, rest⟩, hread, hdo⟩ := ok_of_bind_eq_ok h
    obtain ⟨⟨⟩, hfinish, hdo⟩ := ok_of_bind_eq_ok hdo
    cases hdo
    rw [hread, eq_nil_of_finish hfinish]
  · intro h
    simp only [exactly, h, bind, Except.bind]
    rfl

/-- A reader accepts the lists of lexemes that have a derivation and answers with what the
derivation stands for, and no list has two derivations. -/
structure Recognizes (reader : List Lexeme → Except ExprFault (α × List Lexeme))
    (lexemes : T → List Lexeme) (value : T → α) : Prop where
  reads (ls : List Lexeme) (result : α) :
    exactly reader ls = .ok result ↔ ∃ t, lexemes t = ls ∧ value t = result
  unique (ls : List Lexeme) (t t' : T) : lexemes t = ls → lexemes t' = ls → t = t'

variable {lexemes : T → List Lexeme} {value : T → α}

/-- A reader recognizes a grammar if it is sound and complete for it and no two trees have the same
lexemes. -/
theorem recognizes_of
    (sound : ∀ ls rest result, reader ls = .ok (result, rest) →
      ∃ t, value t = result ∧ lexemes t ++ rest = ls)
    (complete : ∀ t, reader (lexemes t) = .ok (value t, []))
    (inj : ∀ t t', lexemes t = lexemes t' → t = t') : Recognizes reader lexemes value where
  reads ls result := by
    rw [exactly_eq_ok_iff]
    constructor
    · intro h
      obtain ⟨t, hvalue, hlexemes⟩ := sound ls [] result h
      exact ⟨t, by rw [← hlexemes, List.append_nil], hvalue⟩
    · rintro ⟨t, rfl, rfl⟩
      exact complete t
  unique ls t t' h h' := inj t t' (h.trans h'.symm)

/-- A text is an expression of a kind if its lexemes have a derivation of that kind. -/
theorem Recognizes.whole_eq_ok_iff (h : Recognizes reader lexemes value) {source : String}
    {result : α} :
    whole reader source = .ok result ↔
      ∃ t, Lexeme.lex source.toList = .ok (lexemes t) ∧ value t = result := by
  have hwhole : whole reader source = Lexeme.lex source.toList >>= exactly reader := rfl
  rw [hwhole]
  constructor
  · intro hdo
    obtain ⟨ls, hlex, hread⟩ := ok_of_bind_eq_ok hdo
    obtain ⟨t, rfl, hvalue⟩ := (h.reads ls result).1 hread
    exact ⟨t, hlex, hvalue⟩
  · rintro ⟨t, hlex, hvalue⟩
    rw [hlex]
    exact (h.reads _ result).2 ⟨t, rfl, hvalue⟩

end Whole

/-- The readers of operands, of outputs and of conditions accept exactly what their grammars derive
and answer with the expression of its only derivation. -/
theorem recognize_grammar :
    Recognizes operand OperandTree.lexemes OperandTree.operand ∧
    Recognizes piped OutputTree.lexemes OutputTree.piped ∧
    Recognizes condition ConditionTree.lexemes ConditionTree.condition := by
  refine ⟨?operand, ?output, ?condition⟩
  case operand =>
    refine recognizes_of (fun ls rest result h => exists_tree_of_operand h) (fun t => ?_)
      fun t t' => OperandTree.lexemes_inj
    have h := operand_append t endsPath_nil
    rwa [List.append_nil] at h
  case output =>
    exact recognizes_of (fun ls rest result h => exists_tree_of_piped h) piped_lexemes
      fun t t' => OutputTree.lexemes_inj
  case condition =>
    exact recognizes_of (fun ls rest result h => exists_tree_of_conditionIn h)
      (fun t => conditionIn_lexemes t (Nat.le_refl _)) fun t t' => ConditionTree.lexemes_inj

end Reading

end Stencil
