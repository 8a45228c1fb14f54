import Stencil.Filter.Builtin
import Stencil.Proofs.Number.Texts

/-!
# The arithmetic of filters

Some values denote an integer of 64 bits (`Value.Denotes`) and more have a floating point number
(`Value.Floats`).  Arithmetic takes a value for the integer that it denotes, or else for its
floating point number, and refuses it if it has none.  So the filters answer the exact integer as
long as both sides denote integers and the result fits 64 bits, and compute everything else in
floating point (`Operation.exists_builtin_performs`).
-/

set_option autoImplicit false

namespace Stencil

/-- Only integers of 64 bits are taken as such. -/
theorem Number.signed64?_eq_some_iff {n : Number} {k : Int} :
    n.signed64? = some k ↔ n = .int k ∧ isSigned64 k = true := by
  cases n with
  | int i =>
    rw [signed64?, Option.ite_none_right_eq_some, Option.some_inj, Number.int.injEq]
    exact ⟨fun ⟨hi, heq⟩ => ⟨heq, heq ▸ hi⟩, fun ⟨heq, hk⟩ => ⟨heq ▸ hk, heq⟩⟩
  | float x => exact ⟨nofun, nofun⟩

namespace Value

/-- The integer of 64 bits with a sign that a value stands for: an integer itself, zero for null, or
what a text spells within white space. -/
inductive Denotes : Value → Int → Prop
  | number {k : Int} (hk : Number.isSigned64 k = true) : Denotes (.number (.int k)) k
  | null : Denotes .null 0
  | text {s : String} {k : Int} (htext : Number.IntegerText (Text.trim s.toList) k)
      (hk : Number.isSigned64 k = true) : Denotes (.string s) k

/-- The floating point number of a value: that of the integer that it denotes, that of a number, or
the finite one that a text spells within white space without denoting an integer. -/
inductive Floats : Value → Float → Prop
  | whole {v : Value} {k : Int} (h : v.Denotes k) : Floats v (Float.ofInt k)
  | number (n : Number) : Floats (.number n) n.toFloat
  | text {s : String} {x : Float} (hwhole : ∀ k, ¬ Denotes (.string s) k)
      (htext : Number.FloatText (Text.trim s.toList) x) : Floats (.string s) x

/-- The value has a number. -/
def Numeric (v : Value) : Prop :=
  ∃ x, v.Floats x

/-- A text stands for the integer that it spells between white space. -/
theorem denotes_string_iff {s : String} {k : Int} :
    Denotes (.string s) k ↔ Number.readSigned64? (Text.trim s.toList) = some k := by
  rw [Number.readSigned64?_eq_some_iff]
  exact ⟨fun | .text htext hk => ⟨htext, hk⟩, fun h => .text h.1 h.2⟩

/-- What a value stands for has 64 bits. -/
theorem Denotes.isSigned64 {v : Value} {k : Int} (h : v.Denotes k) :
    Number.isSigned64 k = true := by
  cases h with
  | number hk => exact hk
  | null => decide
  | text _ hk => exact hk

end Value

namespace Filter

section Operands

variable {v : Value} {n : Number}

/-- A value that stands for an integer is taken as this integer. -/
theorem number_of_denotes {k : Int} (h : v.Denotes k) : number v = .ok (.int k) := by
  cases h with
  | number hk => rfl
  | null => rfl
  | @text s k htext hk => rw [number, Value.denotes_string_iff.1 (.text htext hk)]

/-- A value denotes one integer at most. -/
theorem eq_of_denotes {i k : Int} (hi : v.Denotes i) (hk : v.Denotes k) : i = k :=
  Number.int.inj (Except.ok.inj ((number_of_denotes hi).symm.trans (number_of_denotes hk)))

/-- A value that stands for a floating point number is taken as this number. -/
theorem number_of_floats {x : Float} (h : v.Floats x) : ∃ n, number v = .ok n ∧ n.toFloat = x := by
  cases h with
  | whole h => exact ⟨_, number_of_denotes h, rfl⟩
  | number n => exact ⟨n, rfl, rfl⟩
  | @text s x hwhole htext =>
    have hnone : Number.readSigned64? (Text.trim s.toList) = none :=
      Option.eq_none_iff_forall_ne_some.2 fun k hk => hwhole k (Value.denotes_string_iff.2 hk)
    refine ⟨.float x, ?_, rfl⟩
    rw [number, hnone, Number.readFloat?_eq_some_iff.2 htext]

/-- Arithmetic takes a value for a number with the floating point number that the value has, and for
an integer of 64 bits only if the value denotes it. -/
theorem of_number_eq_ok :
    number v = .ok n → v.Floats n.toFloat ∧ ∀ k, n.signed64? = some k → v.Denotes k := by
  fun_cases number v with
  | case1 n =>
    rintro ⟨⟩
    refine ⟨.number n, fun k hk => ?_⟩
    obtain ⟨rfl, hrange⟩ := Number.signed64?_eq_some_iff.1 hk
    exact .number hrange
  | case2 =>
    rintro ⟨⟩
    exact ⟨.whole .null, fun k hk => Option.some_inj.1 hk ▸ .null⟩
  | case3 s cs k hk =>
    rintro ⟨⟩
    have hdenotes := Value.denotes_string_iff.2 hk
    refine ⟨.whole hdenotes, fun i hi => ?_⟩
    obtain ⟨heq, -⟩ := Number.signed64?_eq_some_iff.1 hi
    cases heq
    exact hdenotes
  | case4 s cs x hx hnone =>
    rintro ⟨⟩
    refine ⟨.text (fun k hk => ?_) (Number.readFloat?_eq_some_iff.1 hx), nofun⟩
    exact absurd (Value.denotes_string_iff.1 hk) (by rw [hnone]; nofun)
  | _ => nofun

/-- A value that is taken as no number is told in the error. -/
theorem eq_of_number_eq_error {fault : FilterFault} :
    number v = .error fault → fault = .notANumber v := by
  fun_cases number v with
  | case5 | case6 =>
    rintro ⟨⟩
    rfl
  | _ => nofun

/-- A numeric value is taken as a number. -/
theorem exists_number_of_numeric (h : v.Numeric) : ∃ n, number v = .ok n := by
  obtain ⟨x, hx⟩ := h
  obtain ⟨n, hn, -⟩ := number_of_floats hx
  exact ⟨n, hn⟩

/-- A value that is not numeric is an error. -/
theorem number_of_not_numeric (h : ¬ v.Numeric) : number v = .error (.notANumber v) := by
  cases hv : number v with
  | error fault => rw [eq_of_number_eq_error hv]
  | ok n => exact absurd ⟨_, (of_number_eq_ok hv).1⟩ h

end Operands

/-- Arithmetic on two values that are taken for numbers. -/
theorem arithmetic_of_ok {whole : Int → Int → Int} {float : Float → Float → Float}
    {input arg : Value} {m n : Number} (hinput : number input = .ok m) (harg : number arg = .ok n) :
    arithmetic whole float input [arg] =
      match m.signed64?, n.signed64? with
      | some x, some y =>
        if Number.isSigned64 (whole x y) then .ok (.ofInt (whole x y))
        else finite (float m.toFloat n.toFloat)
      | _, _ => finite (float m.toFloat n.toFloat) := by
  show (number input >>= fun a => number arg >>= _) = _
  rw [hinput, harg]
  rfl

end Filter

/-- The operations that filters perform on numbers. -/
inductive Operation where
  | plus
  | minus
  | times

namespace Operation

/-- The name of the filter. -/
def name : Operation → String
  | plus => "plus"
  | minus => "minus"
  | times => "times"

/-- The operation on integers. -/
def whole : Operation → Int → Int → Int
  | plus => (· + ·)
  | minus => (· - ·)
  | times => (· * ·)

/-- The operation on floating point numbers. -/
def float : Operation → Float → Float → Float
  | plus => (· + ·)
  | minus => (· - ·)
  | times => (· * ·)

/-- What a filter answers to an input and one argument, if it performs an operation exactly or in
floating point. -/
structure Performs (op : Operation) (f : Filter) (input arg : Value) : Prop where
  exact (x y : Int) : input.Denotes x → arg.Denotes y →
    Number.isSigned64 (op.whole x y) = true → f input [arg] = .ok (.ofInt (op.whole x y))
  float (a b : Float) : input.Floats a → arg.Floats b →
    (∀ x y, input.Denotes x → arg.Denotes y → Number.isSigned64 (op.whole x y) = false) →
    f input [arg] = if (op.float a b).isFinite then .ok (.number (.float (op.float a b)))
      else .error (.notFinite (op.float a b))
  refuses_input : ¬ input.Numeric → f input [arg] = .error (.notANumber input)
  refuses_arg : input.Numeric → ¬ arg.Numeric → f input [arg] = .error (.notANumber arg)

/-- Each operation has a filter. -/
theorem find?_builtin (op : Operation) :
    Dict.find? op.name Filter.builtin = some (Filter.arithmetic op.whole op.float) := by
  cases op <;> rfl

/-- What an operation gives for any two values: both as whole numbers, or else both as floating
point ones, or an error for the first that is none. -/
theorem performs_arithmetic (op : Operation) (input arg : Value) :
    Performs op (Filter.arithmetic op.whole op.float) input arg where
  exact x y hx hy hresult := by
    rw [Filter.arithmetic_of_ok (Filter.number_of_denotes hx) (Filter.number_of_denotes hy),
      Number.signed64?_eq_some_iff.2 ⟨rfl, hx.isSigned64⟩,
      Number.signed64?_eq_some_iff.2 ⟨rfl, hy.isSigned64⟩]
    exact if_pos hresult
  float a b ha hb hresult := by
    obtain ⟨m, hm, rfl⟩ := Filter.number_of_floats ha
    obtain ⟨n, hn, rfl⟩ := Filter.number_of_floats hb
    rw [Filter.arithmetic_of_ok hm hn]
    split
    · next x y hx hy =>
      have hout := hresult x y ((Filter.of_number_eq_ok hm).2 x hx)
        ((Filter.of_number_eq_ok hn).2 y hy)
      rw [hout]
      rfl
    · rfl
  refuses_input h := by
    show (Filter.number input >>= _) = _
    rw [Filter.number_of_not_numeric h]
    rfl
  refuses_arg h h' := by
    obtain ⟨m, hm⟩ := Filter.exists_number_of_numeric h
    show (Filter.number input >>= fun a => Filter.number arg >>= _) = _
    rw [hm, Filter.number_of_not_numeric h']
    rfl

/-- The filters of arithmetic answer the exact integer if both sides denote integers and the result
fits 64 bits, and otherwise what the operation makes of the floating point numbers of both sides.
They refuse values without a number and results that are not finite. -/
theorem exists_builtin_performs (op : Operation) : ∃ f : Filter,
    Dict.find? op.name Filter.builtin = some f ∧
      ∀ input arg : Value, Performs op f input arg :=
  ⟨_, op.find?_builtin, op.performs_arithmetic⟩

/-- The text of the greatest integer of 64 bits, with a sign and within white space. -/
def greatest : Value :=
  .string " +9223372036854775807 "

/-- The greatest integer of 64 bits stands for itself. -/
theorem denotes_greatest : greatest.Denotes 9223372036854775807 :=
  Value.denotes_string_iff.2 (by decide +kernel)

/-- To the greatest integer null is added exactly, one in floating point and a list not at all. -/
theorem exists_builtin_performs_greatest : ∃ f : Filter,
    Dict.find? "plus" Filter.builtin = some f ∧
    f greatest [.null] = .ok (.ofInt 9223372036854775807) ∧
    f greatest [.ofInt 1] =
      .ok (.number (.float (Float.ofInt 9223372036854775807 + Float.ofInt 1))) ∧
    f greatest [.array []] = .error (.notANumber (.array [])) := by
  obtain ⟨f, hf, hperforms⟩ := exists_builtin_performs .plus
  have hone : Value.Denotes (.ofInt 1) 1 := .number (by decide)
  refine ⟨f, hf, (hperforms _ _).exact _ 0 denotes_greatest .null (by decide), ?_, ?_⟩
  · refine ((hperforms _ _).float _ _ (.whole denotes_greatest) (.whole hone) ?_).trans
      (if_pos (by decide +kernel))
    intro x y hx hy
    rw [Filter.eq_of_denotes hx denotes_greatest, Filter.eq_of_denotes hy hone]
    decide
  · refine (hperforms _ _).refuses_arg ⟨_, .whole denotes_greatest⟩ ?_
    rintro ⟨x, h⟩
    cases h with | whole h => cases h

end Operation

end Stencil
