import Stencil.Expr.Reader

/-!
# The grammar of expressions

The lexemes of an operand, of an output and of a condition, as derivation trees.  A tree spells the
lexemes that it derives (`lexemes`) and stands for one expression.  A path goes on as long as a dot
or an opening bracket follows, so lexemes have an operand in front of the others in one way only, if
the others do not begin with one of these marks (`OperandTree.lexemes_append_inj`).  Behind a filter
and behind a clause there are more marks that go on with them (`EndsFilter`, `EndsClause`), and none
of these begins what may follow.  So no list of lexemes has two derivations as an operand, as an
output or as a condition.
-/

set_option autoImplicit false

namespace Stencil

/-- The words that stand for literals. -/
def literalWords : List String :=
  ["true", "false", "nil", "null"]

mutual

/-- A derivation of an operand: a literal, a range, or a path that begins with a variable or with an
operand in brackets. -/
inductive OperandTree where
  | string (s : String)
  | number (n : Number)
  | true
  | false
  | nil
  | null
  | range (first last : OperandTree)
  | named (w : String) (h : w ∉ literalWords) (suffix : SuffixTree)
  | lookup (key : OperandTree) (suffix : SuffixTree)

/-- A derivation of the further steps of a path: words and whole numbers of 64 bits without a
sign behind dots, and operands in brackets. -/
inductive SuffixTree where
  | stop
  | field (w : String) (more : SuffixTree)
  | place (n : Nat) (h : Number.isUnsigned64 n = true) (more : SuffixTree)
  | item (key : OperandTree) (more : SuffixTree)

end

mutual

/-- The lexemes of an operand. -/
def OperandTree.lexemes : OperandTree → List Lexeme
  | .string s => [.string s]
  | .number n => [.number n]
  | .true => [.word "true"]
  | .false => [.word "false"]
  | .nil => [.word "nil"]
  | .null => [.word "null"]
  | .range first last =>
    .punct .openParen :: (first.lexemes ++ .punct .range :: (last.lexemes ++ [.punct .closeParen]))
  | .named w _ suffix => .word w :: suffix.lexemes
  | .lookup key suffix =>
    .punct .openBracket :: (key.lexemes ++ .punct .closeBracket :: suffix.lexemes)

/-- The lexemes of the further steps of a path. -/
def SuffixTree.lexemes : SuffixTree → List Lexeme
  | .stop => []
  | .field w more => .punct .dot :: .word w :: more.lexemes
  | .place n _ more => .punct .dot :: .number (.int n) :: more.lexemes
  | .item key more => .punct .openBracket :: (key.lexemes ++ .punct .closeBracket :: more.lexemes)

end

mutual

/-- The operand that a derivation stands for. -/
def OperandTree.operand : OperandTree → Operand
  | .string s => .literal (.string s)
  | .number n => .literal (.number n)
  | .true => .literal (.bool Bool.true)
  | .false => .literal (.bool Bool.false)
  | .nil => .literal .null
  | .null => .literal .null
  | .range first last => .range first.operand last.operand
  | .named w _ suffix => .path (suffix.path (.var w))
  | .lookup key suffix => .path (suffix.path (.lookup key.operand))

/-- The path with further steps. -/
def SuffixTree.path : SuffixTree → Path → Path
  | .stop, p => p
  | .field w more, p => more.path (.field p w)
  | .place n _ more, p => more.path (.field p (Decimal.natText n))
  | .item key more, p => more.path (.item p key.operand)

end

/-- A derivation of the use of a filter, without arguments or with some. -/
inductive FilterTree where
  | plain (name : String)
  | applied (name : String) (first : OperandTree) (more : List OperandTree)

namespace FilterTree

/-- The lexemes of operands behind commas. -/
def furtherLexemes (more : List OperandTree) : List Lexeme :=
  more.flatMap fun a => .punct .comma :: a.lexemes

/-- The lexemes of the use of a filter. -/
def lexemes : FilterTree → List Lexeme
  | plain name => [.punct .bar, .word name]
  | applied name first more =>
    .punct .bar :: .word name :: .punct .colon :: (first.lexemes ++ furtherLexemes more)

/-- The use of a filter that a derivation stands for. -/
def call : FilterTree → FilterCall
  | plain name => ⟨name, []⟩
  | applied name first more => ⟨name, first.operand :: more.map OperandTree.operand⟩

end FilterTree

/-- A derivation of an output: an operand and the filters behind it. -/
structure OutputTree where
  operand : OperandTree
  filters : List FilterTree

namespace OutputTree

/-- The lexemes of an output. -/
def lexemes (t : OutputTree) : List Lexeme :=
  t.operand.lexemes ++ t.filters.flatMap FilterTree.lexemes

/-- The operand and the uses of filters that a derivation stands for. -/
def piped (t : OutputTree) : Operand × List FilterCall :=
  (t.operand.operand, t.filters.map FilterTree.call)

end OutputTree

/-- The signs of comparisons, of which two stand for the same one. -/
inductive ComparisonSign where
  | equal
  | notEqual
  | lessOrGreater
  | less
  | greater
  | lessEqual
  | greaterEqual
  | contains

namespace ComparisonSign

/-- The lexeme of a sign. -/
def lexeme : ComparisonSign → Lexeme
  | equal => .punct .equal
  | notEqual => .punct .notEqual
  | lessOrGreater => .punct .lessOrGreater
  | less => .punct .less
  | greater => .punct .greater
  | lessEqual => .punct .lessEqual
  | greaterEqual => .punct .greaterEqual
  | contains => .word "contains"

/-- The comparison that a sign stands for. -/
def comparison : ComparisonSign → Comparison
  | equal => .equal
  | notEqual => .notEqual
  | lessOrGreater => .notEqual
  | less => .less
  | greater => .greater
  | lessEqual => .lessEqual
  | greaterEqual => .greaterEqual
  | contains => .contains

end ComparisonSign

/-- A derivation of a clause: an operand, or two with a sign between them. -/
inductive ClauseTree where
  | test (operand : OperandTree)
  | compare (left : OperandTree) (sign : ComparisonSign) (right : OperandTree)

namespace ClauseTree

/-- The lexemes of a clause. -/
def lexemes : ClauseTree → List Lexeme
  | test operand => operand.lexemes
  | compare left sign right => left.lexemes ++ sign.lexeme :: right.lexemes

/-- The condition that a clause stands for. -/
def condition : ClauseTree → Condition
  | test operand => .test operand.operand
  | compare left sign right => .compare left.operand sign.comparison right.operand

end ClauseTree

/-- A derivation of a condition: a clause, and a connective with a condition behind it. -/
inductive ConditionTree where
  | clause (first : ClauseTree)
  | and (first : ClauseTree) (more : ConditionTree)
  | or (first : ClauseTree) (more : ConditionTree)

namespace ConditionTree

/-- The lexemes of a condition. -/
def lexemes : ConditionTree → List Lexeme
  | clause first => first.lexemes
  | and first more => first.lexemes ++ .word "and" :: more.lexemes
  | or first more => first.lexemes ++ .word "or" :: more.lexemes

/-- The condition that a derivation stands for. -/
def condition : ConditionTree → Condition
  | clause first => first.condition
  | and first more => .and first.condition more.condition
  | or first more => .or first.condition more.condition

-- Its place tells whether a word is a connective or the name of a variable.
example : (ConditionTree.and (.test (.named "and" (by decide) .stop))
    (.clause (.test (.named "or" (by decide) .stop)))).lexemes =
      [.word "and", .word "and", .word "or"] := rfl

end ConditionTree

/-- A word that is none of the literal ones is different from each of them. -/
theorem ne_of_notMem_literalWords {w : String} (h : w ∉ literalWords) :
    "true" ≠ w ∧ "false" ≠ w ∧ "nil" ≠ w ∧ "null" ≠ w := by
  simpa [literalWords, eq_comm] using h

/-- No path goes on at the beginning of some lexemes. -/
def EndsPath (rest : List Lexeme) : Prop :=
  rest.head? ≠ some (.punct .dot) ∧ rest.head? ≠ some (.punct .openBracket)

/-- A path ends at the end of the text. -/
theorem endsPath_nil : EndsPath [] := by
  simp [EndsPath]

/-- A path ends in front of all but a dot and an opening bracket. -/
theorem endsPath_cons {l : Lexeme} {rest : List Lexeme} (hdot : l ≠ .punct .dot)
    (hbracket : l ≠ .punct .openBracket) : EndsPath (l :: rest) := by
  simp [EndsPath, hdot, hbracket]

/-- A path ends in front of every mark but a dot and an opening bracket. -/
theorem endsPath_punct {p : Punct} {rest : List Lexeme} (hdot : p ≠ .dot)
    (hbracket : p ≠ .openBracket) : EndsPath (.punct p :: rest) :=
  endsPath_cons (by simpa using hdot) (by simpa using hbracket)

/-- Where a path ends, no step of a path begins. -/
theorem SuffixTree.eq_stop_of_endsPath {t : SuffixTree} {rest rest' : List Lexeme}
    (h : EndsPath rest) (heq : rest = t.lexemes ++ rest') : t = .stop := by
  cases t <;> simp_all [SuffixTree.lexemes, EndsPath]

mutual

/-- Lexemes have an operand in front in one way only, if no path goes on behind it. -/
theorem OperandTree.lexemes_append_inj (t t' : OperandTree) {rest rest' : List Lexeme}
    (h : EndsPath rest) (h' : EndsPath rest') (heq : t.lexemes ++ rest = t'.lexemes ++ rest') :
    t = t' ∧ rest = rest' := by
  cases t with
  | range first last =>
    cases t' with
    | range first' last' =>
      simp only [OperandTree.lexemes, List.cons_append, List.append_assoc, List.nil_append,
        List.cons.injEq, true_and] at heq
      obtain ⟨hfirst, hbehind⟩ := first.lexemes_append_inj first'
        (endsPath_punct (by decide) (by decide)) (endsPath_punct (by decide) (by decide)) heq
      obtain ⟨hlast, hend⟩ := last.lexemes_append_inj last'
        (endsPath_punct (by decide) (by decide)) (endsPath_punct (by decide) (by decide))
        (List.cons.inj hbehind).2
      exact ⟨by rw [hfirst, hlast], (List.cons.inj hend).2⟩
    | _ => simp [OperandTree.lexemes] at heq
  | named w hw suffix =>
    cases t' with
    | named w' hw' suffix' =>
      simp only [OperandTree.lexemes, List.cons_append, List.cons.injEq, Lexeme.word.injEq] at heq
      obtain ⟨rfl, hbehind⟩ := heq
      obtain ⟨hsuffix, hrest⟩ := suffix.lexemes_append_inj suffix' h h' hbehind
      exact ⟨by rw [hsuffix], hrest⟩
    | _ =>
      have hne := ne_of_notMem_literalWords hw
      simp_all [OperandTree.lexemes]
  | lookup key suffix =>
    cases t' with
    | lookup key' suffix' =>
      simp only [OperandTree.lexemes, List.cons_append, List.append_assoc, List.cons.injEq,
        true_and] at heq
      obtain ⟨hkey, hbehind⟩ := key.lexemes_append_inj key'
        (endsPath_punct (by decide) (by decide)) (endsPath_punct (by decide) (by decide)) heq
      obtain ⟨hsuffix, hrest⟩ :=
        suffix.lexemes_append_inj suffix' h h' (List.cons.inj hbehind).2
      exact ⟨by rw [hkey, hsuffix], hrest⟩
    | _ => simp [OperandTree.lexemes] at heq
  -- The others have one lexeme, which no operand of another kind begins with.
  | _ =>
    cases t' with
    | named w' hw' suffix' =>
      have hne := ne_of_notMem_literalWords hw'
      simp_all [OperandTree.lexemes]
    | _ => simp_all [OperandTree.lexemes]

/-- Lexemes have the further steps of a path in front in one way only, if no path goes on behind
them. -/
theorem SuffixTree.lexemes_append_inj (t t' : SuffixTree) {rest rest' : List Lexeme}
    (h : EndsPath rest) (h' : EndsPath rest') (heq : t.lexemes ++ rest = t'.lexemes ++ rest') :
    t = t' ∧ rest = rest' := by
  cases t with
  | stop =>
    obtain rfl := SuffixTree.eq_stop_of_endsPath h heq
    exact ⟨rfl, heq⟩
  | field w more =>
    cases t' with
    | stop => cases SuffixTree.eq_stop_of_endsPath h' heq.symm
    | field w' more' =>
      simp only [SuffixTree.lexemes, List.cons_append, List.cons.injEq, true_and,
        Lexeme.word.injEq] at heq
      obtain ⟨rfl, hbehind⟩ := heq
      obtain ⟨hmore, hrest⟩ := more.lexemes_append_inj more' h h' hbehind
      exact ⟨by rw [hmore], hrest⟩
    | _ => simp [SuffixTree.lexemes] at heq
  | place n hn more =>
    cases t' with
    | stop => cases SuffixTree.eq_stop_of_endsPath h' heq.symm
    | place n' hn' more' =>
      simp only [SuffixTree.lexemes, List.cons_append, List.cons.injEq, true_and,
        Lexeme.number.injEq, Number.int.injEq, Int.natCast_inj] at heq
      obtain ⟨rfl, hbehind⟩ := heq
      obtain ⟨hmore, hrest⟩ := more.lexemes_append_inj more' h h' hbehind
      exact ⟨by rw [hmore], hrest⟩
    | _ => simp [SuffixTree.lexemes] at heq
  | item key more =>
    cases t' with
    | stop => cases SuffixTree.eq_stop_of_endsPath h' heq.symm
    | item key' more' =>
      simp only [SuffixTree.lexemes, List.cons_append, List.append_assoc, List.cons.injEq,
        true_and] at heq
      obtain ⟨hkey, hbehind⟩ := key.lexemes_append_inj key'
        (endsPath_punct (by decide) (by decide)) (endsPath_punct (by decide) (by decide)) heq
      obtain ⟨hmore, hrest⟩ := more.lexemes_append_inj more' h h' (List.cons.inj hbehind).2
      exact ⟨by rw [hkey, hmore], hrest⟩
    | _ => simp [SuffixTree.lexemes] at heq

end

/-- Neither a path nor the arguments of a filter go on at the beginning of some lexemes. -/
structure EndsFilter (rest : List Lexeme) : Prop where
  path : EndsPath rest
  colon : rest.head? ≠ some (.punct .colon)
  comma : rest.head? ≠ some (.punct .comma)

/-- A filter ends at the end of the text. -/
theorem endsFilter_nil : EndsFilter [] :=
  ⟨endsPath_nil, nofun, nofun⟩

/-- A filter ends in front of a bar. -/
theorem endsFilter_bar (rest : List Lexeme) : EndsFilter (.punct .bar :: rest) :=
  ⟨endsPath_punct (by decide) (by decide), by simp, by simp⟩

namespace FilterTree

variable {rest rest' : List Lexeme}

/-- A further argument stands behind a comma. -/
theorem furtherLexemes_cons (a : OperandTree) (more : List OperandTree) :
    furtherLexemes (a :: more) = .punct .comma :: (a.lexemes ++ furtherLexemes more) :=
  rfl

/-- There are no more arguments than lexemes. -/
theorem length_le_length_furtherLexemes (more : List OperandTree) :
    more.length ≤ (furtherLexemes more).length := by
  induction more with
  | nil => exact Nat.zero_le _
  | cons a more ih =>
    simp only [furtherLexemes_cons, List.length_cons, List.length_append]
    omega

/-- A path ends in front of further arguments and behind the last one. -/
theorem endsPath_furtherLexemes (more : List OperandTree) (h : EndsFilter rest) :
    EndsPath (furtherLexemes more ++ rest) := by
  cases more with
  | nil => exact h.path
  | cons a more => exact endsPath_punct (by decide) (by decide)

/-- Further arguments are determined by their lexemes, and so is what stands behind them. -/
theorem furtherLexemes_append_inj (h : EndsFilter rest) (h' : EndsFilter rest') :
    ∀ more more' : List OperandTree,
      furtherLexemes more ++ rest = furtherLexemes more' ++ rest' → more = more' ∧ rest = rest'
  | [], [], heq => ⟨rfl, heq⟩
  | [], a' :: more', heq => absurd (congrArg List.head? heq) h.comma
  | a :: more, [], heq => absurd (congrArg List.head? heq.symm) h'.comma
  | a :: more, a' :: more', heq => by
    simp only [furtherLexemes_cons, List.cons_append, List.append_assoc, List.cons.injEq,
      true_and] at heq
    obtain ⟨rfl, hbehind⟩ := a.lexemes_append_inj a' (endsPath_furtherLexemes more h)
      (endsPath_furtherLexemes more' h') heq
    obtain ⟨rfl, hrest⟩ := furtherLexemes_append_inj h h' more more' hbehind
    exact ⟨rfl, hrest⟩

/-- A filter is determined by its lexemes, and so is what stands behind it. -/
theorem lexemes_append_inj (t t' : FilterTree) (h : EndsFilter rest) (h' : EndsFilter rest')
    (heq : t.lexemes ++ rest = t'.lexemes ++ rest') : t = t' ∧ rest = rest' := by
  cases t with
  | plain name =>
    cases t' with
    | plain name' => simpa [lexemes] using heq
    | applied name' first' more' =>
      simp only [lexemes, List.cons_append, List.cons.injEq, true_and, List.nil_append] at heq
      exact absurd (congrArg List.head? heq.2) h.colon
  | applied name first more =>
    cases t' with
    | plain name' =>
      simp only [lexemes, List.cons_append, List.cons.injEq, true_and, List.nil_append] at heq
      exact absurd (congrArg List.head? heq.2.symm) h'.colon
    | applied name' first' more' =>
      simp only [lexemes, List.cons_append, List.append_assoc, List.cons.injEq,
        Lexeme.word.injEq, true_and] at heq
      obtain ⟨rfl, hargs⟩ := heq
      obtain ⟨rfl, hbehind⟩ := first.lexemes_append_inj first' (endsPath_furtherLexemes more h)
        (endsPath_furtherLexemes more' h') hargs
      obtain ⟨rfl, hrest⟩ := furtherLexemes_append_inj h h' more more' hbehind
      exact ⟨rfl, hrest⟩

/-- Behind a filter come other filters or nothing. -/
theorem endsFilter_flatMap (filters : List FilterTree) : EndsFilter (filters.flatMap lexemes) := by
  cases filters with
  | nil => exact endsFilter_nil
  | cons t filters => cases t <;> exact endsFilter_bar _

/-- There are no more filters than lexemes. -/
theorem length_le_length_flatMap (filters : List FilterTree) :
    filters.length ≤ (filters.flatMap lexemes).length := by
  induction filters with
  | nil => exact Nat.zero_le _
  | cons t filters ih =>
    simp only [List.flatMap_cons, List.length_cons, List.length_append]
    cases t <;> simp only [lexemes, List.length_cons] <;> omega

/-- Filters are determined by their lexemes. -/
theorem flatMap_lexemes_inj : ∀ filters filters' : List FilterTree,
    filters.flatMap lexemes = filters'.flatMap lexemes → filters = filters'
  | [], [], _ => rfl
  | [], t' :: _, heq => by cases t' <;> simp [lexemes] at heq
  | t :: _, [], heq => by cases t <;> simp [lexemes] at heq
  | t :: filters, t' :: filters', heq => by
    obtain ⟨rfl, hbehind⟩ := t.lexemes_append_inj t' (endsFilter_flatMap filters)
      (endsFilter_flatMap filters') heq
    rw [flatMap_lexemes_inj filters filters' hbehind]

end FilterTree

/-- No list of lexemes has two derivations as an operand. -/
theorem OperandTree.lexemes_inj {t t' : OperandTree} (heq : t.lexemes = t'.lexemes) : t = t' :=
  (t.lexemes_append_inj t' endsPath_nil endsPath_nil (congrArg (· ++ []) heq)).1

/-- No list of lexemes has two derivations as an output. -/
theorem OutputTree.lexemes_inj {t t' : OutputTree} (heq : t.lexemes = t'.lexemes) : t = t' := by
  obtain ⟨operand, filters⟩ := t
  obtain ⟨operand', filters'⟩ := t'
  obtain ⟨rfl, hbehind⟩ := operand.lexemes_append_inj operand'
    (FilterTree.endsFilter_flatMap filters).path (FilterTree.endsFilter_flatMap filters').path heq
  rw [FilterTree.flatMap_lexemes_inj filters filters' hbehind]

/-- Different signs of comparisons are different lexemes. -/
theorem ComparisonSign.lexeme_inj {s s' : ComparisonSign} (heq : s.lexeme = s'.lexeme) :
    s = s' := by
  cases s <;> cases s' <;> first | rfl | simp [lexeme] at heq

/-- Neither a path nor a comparison goes on at the beginning of some lexemes. -/
structure EndsClause (rest : List Lexeme) : Prop where
  path : EndsPath rest
  sign (s : ComparisonSign) : rest.head? ≠ some s.lexeme

namespace ClauseTree

variable {rest rest' : List Lexeme}

/-- A path ends in front of the sign of a comparison. -/
theorem endsPath_sign (s : ComparisonSign) (rest : List Lexeme) : EndsPath (s.lexeme :: rest) := by
  cases s <;>
    exact endsPath_cons (by simp [ComparisonSign.lexeme]) (by simp [ComparisonSign.lexeme])

/-- A clause is determined by its lexemes, and so is what stands behind it. -/
theorem lexemes_append_inj (t t' : ClauseTree) (h : EndsClause rest) (h' : EndsClause rest')
    (heq : t.lexemes ++ rest = t'.lexemes ++ rest') : t = t' ∧ rest = rest' := by
  cases t with
  | test a =>
    cases t' with
    | test a' =>
      obtain ⟨rfl, hrest⟩ := a.lexemes_append_inj a' h.path h'.path heq
      exact ⟨rfl, hrest⟩
    | compare a' s' b' =>
      simp only [lexemes, List.append_assoc, List.cons_append] at heq
      obtain ⟨-, hbehind⟩ := a.lexemes_append_inj a' h.path (endsPath_sign s' _) heq
      exact absurd (congrArg List.head? hbehind) (h.sign s')
  | compare a s b =>
    cases t' with
    | test a' =>
      simp only [lexemes, List.append_assoc, List.cons_append] at heq
      obtain ⟨-, hbehind⟩ := a.lexemes_append_inj a' (endsPath_sign s _) h'.path heq
      exact absurd (congrArg List.head? hbehind.symm) (h'.sign s)
    | compare a' s' b' =>
      simp only [lexemes, List.append_assoc, List.cons_append] at heq
      obtain ⟨rfl, hbehind⟩ :=
        a.lexemes_append_inj a' (endsPath_sign s _) (endsPath_sign s' _) heq
      obtain ⟨hsign, hright⟩ := List.cons.inj hbehind
      obtain ⟨rfl, hrest⟩ := b.lexemes_append_inj b' h.path h'.path hright
      exact ⟨by rw [ComparisonSign.lexeme_inj hsign], hrest⟩

end ClauseTree

namespace ConditionTree

/-- The first clause of a condition. -/
def first : ConditionTree → ClauseTree
  | clause first => first
  | and first _ => first
  | or first _ => first

/-- The lexemes behind the first clause of a condition. -/
def tail : ConditionTree → List Lexeme
  | clause _ => []
  | and _ more => .word "and" :: more.lexemes
  | or _ more => .word "or" :: more.lexemes

/-- A condition is its first clause and what stands behind it. -/
theorem lexemes_eq (t : ConditionTree) : t.lexemes = t.first.lexemes ++ t.tail := by
  cases t with
  | clause first => exact (List.append_nil _).symm
  | and first more => rfl
  | or first more => rfl

/-- A clause ends in front of every word but the one for a membership. -/
theorem endsClause_word {w : String} (hw : w ≠ "contains") (rest : List Lexeme) :
    EndsClause (.word w :: rest) := by
  refine ⟨endsPath_cons (by simp) (by simp), fun s => ?_⟩
  cases s <;> simp [ComparisonSign.lexeme, hw]

/-- Behind a clause comes a connective or nothing. -/
theorem endsClause_tail (t : ConditionTree) : EndsClause t.tail := by
  cases t with
  | clause first => exact ⟨endsPath_nil, fun _ => nofun⟩
  | and first more => exact endsClause_word (by decide) _
  | or first more => exact endsClause_word (by decide) _

/-- The first clause of a condition is determined by the lexemes, and so is the rest. -/
theorem first_tail_inj {t t' : ConditionTree} (heq : t.lexemes = t'.lexemes) :
    t.first = t'.first ∧ t.tail = t'.tail :=
  t.first.lexemes_append_inj t'.first t.endsClause_tail t'.endsClause_tail
    (by rw [← lexemes_eq, ← lexemes_eq, heq])

/-- No list of lexemes has two derivations as a condition. -/
theorem lexemes_inj {t t' : ConditionTree} (heq : t.lexemes = t'.lexemes) : t = t' := by
  induction t generalizing t' with
  | clause first =>
    obtain ⟨hfirst, htail⟩ := first_tail_inj heq
    cases t' with
    | clause first' => exact congrArg clause hfirst
    | _ => simp [tail] at htail
  | and first more ih =>
    obtain ⟨hfirst, htail⟩ := first_tail_inj heq
    cases t' with
    | and first' more' =>
      rw [show first = first' from hfirst, ih (List.cons.inj htail).2]
    | _ => simp [tail] at htail
  | or first more ih =>
    obtain ⟨hfirst, htail⟩ := first_tail_inj heq
    cases t' with
    | or first' more' =>
      rw [show first = first' from hfirst, ih (List.cons.inj htail).2]
    | _ => simp [tail] at htail

end ConditionTree

end Stencil
