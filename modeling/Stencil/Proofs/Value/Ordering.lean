import Stencil.Expr.Eval
import Stencil.Proofs.Value.Equality

/-!
# The order of values

Two numbers are compared by the rationals that they are taken for and two texts by their
characters, so the comparisons of a condition are those of a linear order on either
(`Comparison.holds_number`, `Comparison.holds_string`), and values of other kinds have no order.
Equality is an equivalence that goes with it (`Condition.eval_consistent`).  Integers are taken
for the nearest ones of 53 bits, and so the comparisons of two integers are exact unless these
differ and are taken for one (`Condition.eval_integers`).
-/

set_option autoImplicit false

namespace Stencil

namespace Comparison

/-- Whether a comparison holds between two elements of a linear order. -/
def relates {α : Type} [LinearOrder α] (c : Comparison) (a b : α) : Prop :=
  match c with
  | equal => a = b
  | notEqual => a ≠ b
  | less => a < b
  | greater => b < a
  | lessEqual => a ≤ b
  | greaterEqual => b ≤ a
  | contains => False

instance {α : Type} [LinearOrder α] (c : Comparison) (a b : α) : Decidable (c.relates a b) :=
  match c with
  | equal => inferInstanceAs (Decidable (a = b))
  | notEqual => inferInstanceAs (Decidable (a ≠ b))
  | less => inferInstanceAs (Decidable (a < b))
  | greater => inferInstanceAs (Decidable (b < a))
  | lessEqual => inferInstanceAs (Decidable (a ≤ b))
  | greaterEqual => inferInstanceAs (Decidable (b ≤ a))
  | contains => inferInstanceAs (Decidable False)

/-- A monotone function that keeps two elements apart keeps how they compare. -/
theorem relates_iff_of_monotone {α β : Type} [LinearOrder α] [LinearOrder β] {f : α → β}
    (hf : Monotone f) {a b : α} (h : f a = f b → a = b) (c : Comparison) :
    c.relates (f a) (f b) ↔ c.relates a b := by
  have heq : f a = f b ↔ a = b := ⟨h, congrArg f⟩
  have hle : f a ≤ f b ↔ a ≤ b := ⟨fun hle => by
    by_contra hlt
    exact hlt (h (hle.antisymm (hf (le_of_not_ge hlt)))).le, fun hle => hf hle⟩
  have hge : f b ≤ f a ↔ b ≤ a := ⟨fun hle => by
    by_contra hlt
    exact hlt (h ((hf (le_of_not_ge hlt)).antisymm hle)).ge, fun hle => hf hle⟩
  cases c with
  | equal => exact heq
  | notEqual => exact not_congr heq
  | less => exact lt_iff_lt_of_le_iff_le hge
  | greater => exact lt_iff_lt_of_le_iff_le hle
  | lessEqual => exact hle
  | greaterEqual => exact hge
  | contains => exact Iff.rfl

/-- Two values whose order and equality are those of two elements of a linear order compare as
these do. -/
theorem holds_iff_of_compare? {α : Type} [LinearOrder α] {v w : Value} {a b : α}
    (hcompare : v.compare? w = some (compare a b)) (hequals : v.equals w = true ↔ a = b)
    {c : Comparison} (hc : c ≠ .contains) : c.holds v w = true ↔ c.relates a b := by
  cases c with
  | equal => exact hequals
  | notEqual =>
    rw [holds, Bool.not_eq_true', ← Bool.not_eq_true]
    exact not_congr hequals
  | less =>
    rw [holds, hcompare, Option.any_some, Ordering.isLT_iff_eq_lt]
    exact compare_lt_iff_lt
  | greater =>
    rw [holds, hcompare, Option.any_some, Ordering.isGT_iff_eq_gt]
    exact compare_gt_iff_gt
  | lessEqual =>
    rw [holds, hcompare, Option.any_some, Ordering.isLE_iff_ne_gt]
    exact compare_le_iff_le
  | greaterEqual =>
    rw [holds, hcompare, Option.any_some, Ordering.isGE_iff_ne_lt]
    exact compare_ge_iff_ge
  | contains => exact absurd rfl hc

/-- Two numbers compare as the rationals that they are taken for. -/
theorem holds_number {m n : Number} (hm : m.IsJson) (hn : n.IsJson) (c : Comparison) :
    c.holds (.number m) (.number n) = true ↔ c.relates m.weight n.weight := by
  have hcompare : (Value.number m).compare? (.number n) = some (compare m.weight n.weight) :=
    Number.compareFloats?_toFloat hm hn
  by_cases hc : c = .contains
  · subst hc
    exact ⟨nofun, nofun⟩
  · exact holds_iff_of_compare? hcompare (Value.equals_number_iff hm hn) hc

/-- Two texts compare by the first characters in which they differ. -/
theorem holds_string {s t : String} {c : Comparison} (hc : c ≠ .contains) :
    c.holds (.string s) (.string t) = true ↔ c.relates s t := by
  have hcompare : (Value.string s).compare? (.string t) = some (compare s t) :=
    congrArg some (LinearOrder.compare_eq_compareOfLessAndEq s t).symm
  exact holds_iff_of_compare? hcompare beq_iff_eq hc

end Comparison

/-- The rational that a value is compared by, if it is a number. -/
def Value.weight : Value → ℚ
  | number n => n.weight
  | _ => 0

/-- Two values have an order: both are numbers or both are texts. -/
inductive Value.Ordered : Value → Value → Prop
  | numbers (m n : Number) : Ordered (.number m) (.number n)
  | texts (s t : String) : Ordered (.string s) (.string t)

namespace Value.Ordered

variable {u v w : Value}

/-- Values are of an ordered kind in either order. -/
theorem symm (h : u.Ordered v) : v.Ordered u := by
  cases h <;> constructor

/-- Values that are of one ordered kind with a value are of one. -/
theorem trans (h : u.Ordered v) (h' : v.Ordered w) : u.Ordered w := by
  cases h <;> cases h' <;> constructor

/-- What equals a value is of its kind. -/
theorem of_equals (h : u.Ordered w) (heq : u.equals v = true) : u.Ordered v := by
  cases h <;> cases v
  case numbers.number => exact .numbers ..
  case texts.string => exact .texts ..
  all_goals cases heq

end Value.Ordered

namespace Comparison

variable {u v w : Value}

/-- The values that have an order with one of them compare as elements of a linear order. -/
theorem exists_rank (u : Value) : ∃ (α : Type) (_ : LinearOrder α) (rank : Value → α),
    ∀ v w : Value, v.IsJson → w.IsJson → u.Ordered v → u.Ordered w →
      ∀ c ≠ contains, c.holds v w = true ↔ c.relates (rank v) (rank w) := by
  cases u with
  | number l =>
    refine ⟨ℚ, inferInstance, Value.weight, ?_⟩
    rintro _ _ hv hw ⟨_, m⟩ ⟨_, n⟩ c -
    exact holds_number ((Value.isLeaf_number m).isJson_iff.1 hv)
      ((Value.isLeaf_number n).isJson_iff.1 hw) c
  | string r =>
    refine ⟨String, inferInstance, fun v => v.string?.getD "", ?_⟩
    rintro _ _ - - ⟨_, s⟩ ⟨_, t⟩ c hc
    exact holds_string hc
  | null | bool | array | object => exact ⟨Unit, inferInstance, fun _ => (), nofun⟩

/-- Values that are not of one ordered kind are not compared. -/
theorem compare?_eq_none (h : ¬ u.Ordered v) : u.compare? v = none := by
  unfold Value.compare?
  split
  · exact absurd (.numbers ..) h
  · exact absurd (.texts ..) h
  · rfl

/-- Values without an order are in none of the four comparisons by order. -/
theorem holds_of_not_ordered (h : ¬ u.Ordered v) : less.holds u v = false ∧
    greater.holds u v = false ∧ lessEqual.holds u v = false ∧ greaterEqual.holds u v = false := by
  simp only [holds, compare?_eq_none h, Option.any_none, and_self]

/-- A value that is less than another is of an ordered kind with it. -/
theorem ordered_of_less (h : less.holds u v = true) : u.Ordered v := by
  by_contra hnot
  rw [(holds_of_not_ordered hnot).1] at h
  cases h

/-- A value that is greater than another is of an ordered kind with it. -/
theorem ordered_of_greater (h : greater.holds u v = true) : u.Ordered v := by
  by_contra hnot
  rw [(holds_of_not_ordered hnot).2.1] at h
  cases h

/-- One value is less than another just if that one is greater. -/
theorem less_iff_greater (hu : u.IsJson) (hv : v.IsJson) :
    less.holds u v = true ↔ greater.holds v u = true := by
  obtain ⟨α, _, rank, hrank⟩ := exists_rank u
  have hiff (h : u.Ordered v) : less.holds u v = true ↔ greater.holds v u = true := by
    have hself := h.trans h.symm
    rw [hrank u v hu hv hself h less nofun, hrank v u hv hu h hself greater nofun]
    rfl
  exact ⟨fun h => (hiff (ordered_of_less h)).1 h,
    fun h => (hiff (ordered_of_greater h).symm).2 h⟩

/-- A value that is less than one that is less than a third is less than that one. -/
theorem less_trans (hu : u.IsJson) (hv : v.IsJson) (hw : w.IsJson)
    (h : less.holds u v = true) (h' : less.holds v w = true) : less.holds u w = true := by
  obtain ⟨α, _, rank, hrank⟩ := exists_rank v
  have hvu := (ordered_of_less h).symm
  have hvw := ordered_of_less h'
  have hvv := hvw.trans hvw.symm
  have hfirst := (hrank u v hu hv hvu hvv less nofun).1 h
  have hsecond := (hrank v w hv hw hvv hvw less nofun).1 h'
  exact (hrank u w hu hw hvu hvw less nofun).2 (lt_trans hfirst hsecond)

/-- A value may be replaced by an equal one on the left of a comparison. -/
theorem less_of_equal (hu : u.IsJson) (hv : v.IsJson) (hw : w.IsJson)
    (heq : u.equals v = true) (h : less.holds u w = true) : less.holds v w = true := by
  obtain ⟨α, _, rank, hrank⟩ := exists_rank u
  have huw := ordered_of_less h
  have huu := huw.trans huw.symm
  have huv := huw.of_equals heq
  have hsame : rank u = rank v := (hrank u v hu hv huu huv equal nofun).1 heq
  have hfirst : rank u < rank w := (hrank u w hu hw huu huw less nofun).1 h
  exact (hrank v w hv hw huv huw less nofun).2 (hsame ▸ hfirst)

/-- Exactly one of three things is the case. -/
def ExactlyOne (p q r : Prop) : Prop :=
  p ∧ ¬ q ∧ ¬ r ∨ ¬ p ∧ q ∧ ¬ r ∨ ¬ p ∧ ¬ q ∧ r

/-- In a linear order, exactly one of the three comparisons holds. -/
theorem exactlyOne_relates {α : Type} [LinearOrder α] (a b : α) :
    ExactlyOne (less.relates a b) (equal.relates a b) (greater.relates a b) := by
  rcases lt_trichotomy a b with h | h | h
  · exact .inl ⟨h, h.ne, h.not_gt⟩
  · exact .inr (.inl ⟨h.not_lt, h, h.not_gt⟩)
  · exact .inr (.inr ⟨h.not_gt, h.ne', h⟩)

/-- The comparisons of two values that have an order are those of a linear order. -/
structure Total (u v : Value) : Prop where
  trichotomy :
    ExactlyOne (less.holds u v = true) (equal.holds u v = true) (greater.holds u v = true)
  lessEqual_iff :
    lessEqual.holds u v = true ↔ less.holds u v = true ∨ equal.holds u v = true
  greaterEqual_iff :
    greaterEqual.holds u v = true ↔ greater.holds u v = true ∨ equal.holds u v = true

/-- Of values of an ordered kind, exactly one of the three comparisons holds. -/
theorem total_of_ordered (hu : u.IsJson) (hv : v.IsJson) (h : u.Ordered v) : Total u v := by
  obtain ⟨α, _, rank, hrank⟩ := exists_rank u
  have hiff := hrank u v hu hv (h.trans h.symm) h
  constructor
  · rw [hiff less nofun, hiff equal nofun, hiff greater nofun]
    exact exactlyOne_relates _ _
  · rw [hiff lessEqual nofun, hiff less nofun, hiff equal nofun]
    exact le_iff_lt_or_eq
  · rw [hiff greaterEqual nofun, hiff greater nofun, hiff equal nofun]
    exact le_iff_lt_or_eq.trans (or_congr_right eq_comm)

/-- The comparisons of three values go together as those of one order and one equality do: the order
of the rationals that numbers are taken for and the order of texts. -/
structure Consistent (u v w : Value) : Prop where
  equals_refl : u.equals u = true
  equals_symm : u.equals v = true → v.equals u = true
  equals_trans : u.equals v = true → v.equals w = true → u.equals w = true
  notEqual_eq : notEqual.holds u v = !equal.holds u v
  total : u.Ordered v → Total u v
  less_iff_greater : less.holds u v = true ↔ greater.holds v u = true
  less_trans : less.holds u v = true → less.holds v w = true → less.holds u w = true
  less_congr : equal.holds u v = true → (less.holds u w = true ↔ less.holds v w = true)
  unordered : ¬ u.Ordered v → less.holds u v = false ∧ greater.holds u v = false ∧
    lessEqual.holds u v = false ∧ greaterEqual.holds u v = false
  numbers (m n : Number) : u = .number m → v = .number n →
    ∀ c : Comparison, c.holds u v = true ↔ c.relates m.weight n.weight
  texts (s t : String) : u = .string s → v = .string t →
    ∀ c ≠ contains, c.holds u v = true ↔ c.relates s t

end Comparison

/-- An integer is a value from outside if it is such a number. -/
theorem Value.isJson_ofInt_iff {k : Int} : (Value.ofInt k).IsJson ↔ (Number.int k).IsJson :=
  (isLeaf_number _).isJson_iff

/-- A condition answers what holds between the values of its operands. -/
theorem Condition.eval_compare {scope : Scope} {left right : Operand} {v w : Value}
    (hleft : left.eval scope = .ok v) (hright : right.eval scope = .ok w) (c : Comparison) :
    (compare left c right).eval scope = .ok (c.holds v w) := by
  rw [eval, hleft]
  show (do let right ← right.eval scope; return c.holds v right) = _
  rw [hright]
  rfl

/-- The comparisons that conditions make are those of an equivalence of all values and, up to it, of
a linear order of the numbers and of one of the texts. -/
theorem Condition.eval_consistent {u v w : Value} (hu : u.IsJson) (hv : v.IsJson)
    (hw : w.IsJson) :
    (∀ (scope : Scope) (left right : Operand) (c : Comparison), left.eval scope = .ok u →
      right.eval scope = .ok v → (compare left c right).eval scope = .ok (c.holds u v)) ∧
      Comparison.Consistent u v w := by
  refine ⟨fun scope left right c hleft hright => eval_compare hleft hright c, ?_⟩
  refine
    { equals_refl := Value.equals_refl hu
      equals_symm := Value.equals_symm hu hv
      equals_trans := Value.equals_trans hu hv hw
      notEqual_eq := rfl
      total := Comparison.total_of_ordered hu hv
      less_iff_greater := Comparison.less_iff_greater hu hv
      less_trans := Comparison.less_trans hu hv hw
      less_congr := fun h => ⟨Comparison.less_of_equal hu hv hw h,
        Comparison.less_of_equal hv hu hw (Value.equals_symm hu hv h)⟩
      unordered := Comparison.holds_of_not_ordered
      numbers := ?_
      texts := ?_ }
  · rintro m n rfl rfl c
    exact Comparison.holds_number ((Value.isLeaf_number m).isJson_iff.1 hu)
      ((Value.isLeaf_number n).isJson_iff.1 hv) c
  · rintro s t rfl rfl c hc
    exact Comparison.holds_string hc

/-- An integer and the floating point number that it is taken for are less than the same integer. -/
theorem Condition.eval_consistent_rounded :
    (Value.ofInt (2 ^ 53 + 1)).IsJson ∧ (Value.number (.float 9007199254740992.0)).IsJson ∧
    (Value.ofInt (2 ^ 53 + 2)).IsJson ∧
    (compare (.literal (.ofInt (2 ^ 53 + 1))) .equal
      (.literal (.number (.float 9007199254740992.0)))).eval { root := [] } = .ok true ∧
    Comparison.less.holds (.number (.float 9007199254740992.0)) (.ofInt (2 ^ 53 + 2)) = true := by
  have hu : (Value.ofInt (2 ^ 53 + 1)).IsJson := Value.isJson_ofInt_iff.2 (.inl (by decide))
  have hv : (Value.number (.float 9007199254740992.0)).IsJson := by
    refine (Value.isLeaf_number _).isJson_iff.2 ?_
    show Float.isFinite 9007199254740992.0 = true
    decide +kernel
  have hw : (Value.ofInt (2 ^ 53 + 2)).IsJson := Value.isJson_ofInt_iff.2 (.inl (by decide))
  have hequal : Comparison.equal.holds (.ofInt (2 ^ 53 + 1))
      (.number (.float 9007199254740992.0)) = true := by decide +kernel
  obtain ⟨heval, hconsistent⟩ := eval_consistent hu hv hw
  refine ⟨hu, hv, hw, (heval _ _ _ _ rfl rfl).trans (congrArg _ hequal), ?_⟩
  exact (hconsistent.less_congr hequal).1 (by decide +kernel)

section Integers

open Comparison

/-- Integers compare as the nearest ones of 53 bits. -/
theorem Comparison.holds_ofInt {a b : Int} (ha : (Number.int a).IsJson)
    (hb : (Number.int b).IsJson) (c : Comparison) :
    c.holds (.ofInt a) (.ofInt b) = decide (c.relates (nearestInt a) (nearestInt b)) := by
  rw [Bool.eq_iff_iff, decide_eq_true_iff]
  refine (holds_number ha hb c).trans ?_
  rw [Number.weight_int ha, Number.weight_int hb]
  have hmono : Monotone ((↑) : Int → ℚ) := Int.cast_mono
  exact relates_iff_of_monotone hmono (fun h => Int.cast_injective h) c

/-- A list contains an integer if one of its numbers is taken for the same integer. -/
theorem Value.contains_ofInt {items : List Value} {a : Int} (ha : (Number.int a).IsJson)
    (hitems : (array items).IsJson) :
    (array items).contains (.ofInt a) = true ↔
      (∃ k : Int, .ofInt k ∈ items ∧ nearestInt k = nearestInt a) ∨
        ∃ x : Float, .number (.float x) ∈ items ∧ floatValue x = nearestInt a := by
  have hnumber {n : Number} (hn : .number n ∈ items) :
      (number n).equals (.ofInt a) = true ↔ n.weight = nearestInt a := by
    rw [← Number.weight_int ha]
    exact equals_number_iff ((isLeaf_number n).isJson_iff.1 (isJson_array_iff.1 hitems _ hn)) ha
  have hint {k : Int} (hk : .ofInt k ∈ items) : (Number.int k).weight = nearestInt k :=
    Number.weight_int (isJson_ofInt_iff.1 (isJson_array_iff.1 hitems _ hk))
  rw [contains, List.any_eq_true]
  constructor
  · rintro ⟨item, hmem, hequals⟩
    cases item with
    | number n =>
      have hweight := (hnumber hmem).1 hequals
      cases n with
      | int k =>
        rw [hint hmem] at hweight
        exact .inl ⟨k, hmem, Int.cast_injective hweight⟩
      | float x => exact .inr ⟨x, hmem, hweight⟩
    | null | bool | string | array | object => cases hequals
  · rintro (⟨k, hk, hnearest⟩ | ⟨x, hx, hvalue⟩)
    · refine ⟨_, hk, (hnumber hk).2 ?_⟩
      rw [hint hk, hnearest]
    · exact ⟨_, hx, (hnumber hx).2 hvalue⟩

/-- All comparisons of two integers are exact just if the two are equal or are not taken for one. -/
theorem Comparison.forall_holds_ofInt_iff {a b : Int} (ha : (Number.int a).IsJson)
    (hb : (Number.int b).IsJson) :
    (∀ c : Comparison, c.holds (.ofInt a) (.ofInt b) = decide (c.relates a b)) ↔
      (nearestInt a = nearestInt b → a = b) := by
  constructor
  · intro h heq
    have hanswer := (holds_ofInt ha hb equal).symm.trans (h equal)
    have hboth : nearestInt a = nearestInt b ↔ a = b := decide_eq_decide.1 hanswer
    exact hboth.1 heq
  · intro h c
    have hmono : Monotone nearestInt := fun _ _ => nearestInt_mono
    rw [holds_ofInt ha hb]
    exact decide_eq_decide.2 (relates_iff_of_monotone hmono h c)

/-- An integer of 53 bits is found in a list just if it is one of its integers or one of its floating
point numbers stands for it. -/
theorem Value.contains_ofInt_of_lt {items : List Value} {a : Int} (ha : a.natAbs < 2 ^ 53)
    (hjson : (Number.int a).IsJson) (hitems : (array items).IsJson) :
    (array items).contains (.ofInt a) = true ↔
      .ofInt a ∈ items ∨ ∃ x : Float, .number (.float x) ∈ items ∧ floatValue x = a := by
  refine (contains_ofInt hjson hitems).trans (or_congr ?_ ?_)
  · constructor
    · rintro ⟨k, hk, heq⟩
      rwa [eq_of_nearestInt_eq ha heq.symm]
    · exact fun h => ⟨a, h, rfl⟩
  · rw [nearestInt_of_le ha.le]

/-- Two integers compare as the nearest ones of 53 bits, and so they compare exactly unless they
differ and are taken for the same one.  That does not happen to integers of 53 bits. -/
theorem Condition.eval_integers {scope : Scope} {left right : Operand} {a b : Int}
    (ha : (Number.int a).IsJson) (hb : (Number.int b).IsJson)
    (hleft : left.eval scope = .ok (.ofInt a)) (hright : right.eval scope = .ok (.ofInt b)) :
    (∀ c, (compare left c right).eval scope =
      .ok (decide (c.relates (nearestInt a) (nearestInt b)))) ∧
    ((∀ c, (compare left c right).eval scope = .ok (decide (c.relates a b))) ↔
      (nearestInt a = nearestInt b → a = b)) ∧
    (a.natAbs < 2 ^ 53 ∨ b.natAbs < 2 ^ 53 →
      ∀ c, (compare left c right).eval scope = .ok (decide (c.relates a b))) ∧
    ∀ (list : Operand) (items : List Value), list.eval scope = .ok (.array items) →
      (Value.array items).IsJson → ∃ answer : Bool,
        (compare list .contains left).eval scope = .ok answer ∧
        (answer = true ↔ (∃ k : Int, .ofInt k ∈ items ∧ nearestInt k = nearestInt a) ∨
          ∃ x : Float, .number (.float x) ∈ items ∧ floatValue x = nearestInt a) ∧
        (a.natAbs < 2 ^ 53 → (answer = true ↔ .ofInt a ∈ items ∨
          ∃ x : Float, .number (.float x) ∈ items ∧ floatValue x = a)) := by
  have heval := eval_compare hleft hright
  have hexact : (∀ c, (compare left c right).eval scope = .ok (decide (c.relates a b))) ↔
      (nearestInt a = nearestInt b → a = b) := by
    simp only [heval, Except.ok.injEq]
    exact forall_holds_ofInt_iff ha hb
  refine ⟨fun c => ?_, hexact, fun hsmall => hexact.2 fun heq => ?_,
    fun list items hlist hitems => ?_⟩
  · rw [heval, holds_ofInt ha hb]
  · rcases hsmall with hsmall | hsmall
    · exact eq_of_nearestInt_eq hsmall heq
    · exact (eq_of_nearestInt_eq hsmall heq.symm).symm
  · exact ⟨_, eval_compare hlist hleft .contains, Value.contains_ofInt ha hitems,
      fun hsmall => Value.contains_ofInt_of_lt hsmall ha hitems⟩

/-- A comparison of two integers, as an expression writes them. -/
def Condition.ofInts (a : Int) (c : Comparison) (b : Int) : Condition :=
  compare (.literal (.ofInt a)) c (.literal (.ofInt b))

/-- The greatest integer of 53 bits compares exactly with the greatest one of 64 bits, and it is not
found in a list of that one. -/
theorem Condition.eval_integers_greatest :
    (Number.int (2 ^ 53 - 1)).IsJson ∧ (Number.int (2 ^ 64 - 1)).IsJson ∧
    (∀ c, (ofInts (2 ^ 53 - 1) c (2 ^ 64 - 1)).eval { root := [] } =
      .ok (decide (c.relates (2 ^ 53 - 1) (2 ^ 64 - 1 : Int)))) ∧
    (compare (.literal (.array [.ofInt (2 ^ 64 - 1)])) .contains
      (.literal (.ofInt (2 ^ 53 - 1)))).eval { root := [] } = .ok false := by
  have hlow : (Number.int (2 ^ 53 - 1)).IsJson := .inl (by decide)
  have hhigh : (Number.int (2 ^ 64 - 1)).IsJson := .inr (by decide)
  have hliteral (v : Value) : (Operand.literal v).eval { root := [] } = .ok v := rfl
  obtain ⟨-, -, hexact, hlists⟩ := eval_integers hlow hhigh (hliteral _) (hliteral _)
  refine ⟨hlow, hhigh, hexact (.inl (by decide)), ?_⟩
  obtain ⟨answer, hanswer, -, hitem⟩ := hlists _ [.ofInt (2 ^ 64 - 1)] (hliteral _)
    (Value.isJson_array_iff.2 fun _ h => List.mem_singleton.1 h ▸ Value.isJson_ofInt_iff.2 hhigh)
  rw [hanswer, Except.ok.injEq, ← Bool.not_eq_true]
  intro htrue
  rcases (hitem (by decide)).1 htrue with h | ⟨x, h, -⟩
  · exact absurd (List.mem_singleton.1 h) nofun
  · exact absurd (List.mem_singleton.1 h) nofun

/-- Two integers of 54 bits that differ are found equal and neither of them less, and a list of one
of them contains the other. -/
theorem Condition.ofInts_not_exact :
    (Number.int (2 ^ 53 + 1)).IsJson ∧ (Number.int (2 ^ 53)).IsJson ∧
    (2 ^ 53 : Int) < 2 ^ 53 + 1 ∧
    (ofInts (2 ^ 53 + 1) .equal (2 ^ 53)).eval { root := [] } = .ok true ∧
    (ofInts (2 ^ 53) .less (2 ^ 53 + 1)).eval { root := [] } = .ok false ∧
    (compare (.literal (.array [.ofInt (2 ^ 53)])) .contains
      (.literal (.ofInt (2 ^ 53 + 1)))).eval { root := [] } = .ok true := by
  refine ⟨.inl (by decide), .inl (by decide), by decide, ?_, ?_, ?_⟩
  · exact (eval_compare rfl rfl _).trans (congrArg _ (by decide +kernel))
  · exact (eval_compare rfl rfl _).trans (congrArg _ (by decide +kernel))
  · exact (eval_compare rfl rfl _).trans (congrArg _ (by decide +kernel))

end Integers

end Stencil
