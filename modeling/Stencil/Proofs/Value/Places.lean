import Stencil.Value
import Stencil.Proofs.Number.Nearest
import Stencil.Proofs.Value.Maps

/-!
# Places in values

A place in a value is a path of positions in lists and keys of objects.  Two values have the same
shape if at every place both have a part of the same form or neither has one, and what is asked of
the numbers in a shape may depend on the place (`Value.AlikeBy`).  Lists have the same shape if
their items have it one by one (`Value.alikeBy_array_iff`), and so have objects that list their
entries by increasing key (`Value.alikeBy_object_iff`), as all objects of template data do
(`Value.IsJson`).
-/

set_option autoImplicit false

namespace Stencil

namespace Value

/-- A value is an item of a list or belongs to an entry of an object. -/
inductive Inside : Value → Value → Prop
  | item {a : Value} {items : List Value} (h : a ∈ items) : Inside a (array items)
  | entry {e : String × Value} {fields : List (String × Value)} (h : e ∈ fields) :
      Inside e.2 (object fields)

/-- What is inside a value is smaller. -/
theorem Inside.sizeOf_lt {a v : Value} (h : Inside a v) : sizeOf a < sizeOf v := by
  cases h with
  | item h =>
    have := List.sizeOf_lt_of_mem h
    simp only [array.sizeOf_spec]
    omega
  | @entry e fields h =>
    have := List.sizeOf_lt_of_mem h
    have : sizeOf e = 1 + sizeOf e.1 + sizeOf e.2 := rfl
    simp only [object.sizeOf_spec]
    omega

/-- What holds of a value as soon as it holds of the values inside it holds of every value. -/
@[elab_as_elim]
theorem inductionOn {P : Value → Prop} (v : Value)
    (step : ∀ v, (∀ a, Inside a v → P a) → P v) : P v :=
  step v fun a h =>
    have := h.sizeOf_lt
    inductionOn a step
termination_by sizeOf v

/-- A step from a value to one of its parts: an item of a list or an entry of an object. -/
inductive Step where
  | item (i : Nat)
  | field (key : String)

/-- The part of a value at a place. -/
def part? : List Step → Value → Option Value
  | [], v => some v
  | .item i :: place, array items => items[i]?.bind (part? place)
  | .field key :: place, object fields => (Dict.find? key fields).bind (part? place)
  | _, _ => none

/-- Two values have the same form: they are of one kind and are equal except for the items of lists,
the values of entries and the numbers that they are. -/
inductive SameForm (R : Number → Number → Prop) : Value → Value → Prop
  | null : SameForm R null null
  | bool (b : Bool) : SameForm R (bool b) (bool b)
  | number {m n : Number} (h : R m n) : SameForm R (number m) (number n)
  | string (s : String) : SameForm R (string s) (string s)
  | array {as bs : List Value} (h : as.length = bs.length) : SameForm R (array as) (array bs)
  | object {as bs : List (String × Value)} (h : ∀ key, key ∈ Dict.keys as ↔ key ∈ Dict.keys bs) :
      SameForm R (object as) (object bs)

/-- Two values have the same shape, and their numbers at each place are related as that place asks
for. -/
def AlikeBy (R : List Step → Number → Number → Prop) (v w : Value) : Prop :=
  ∀ place, Option.Rel (SameForm (R place)) (v.part? place) (w.part? place)

variable {R : List Step → Number → Number → Prop}

/-- Values that are alike are of the same form. -/
theorem AlikeBy.sameForm {v w : Value} (h : AlikeBy R v w) : SameForm (R []) v w := by
  cases h [] with
  | some h => exact h

/-- The value has no parts but itself. -/
def IsLeaf (v : Value) : Prop :=
  ∀ step place, v.part? (step :: place) = none

/-- Nothing has no parts. -/
theorem isLeaf_null : IsLeaf null := by
  rintro (_ | _) _ <;> rfl

/-- A truth value has no parts. -/
theorem isLeaf_bool (b : Bool) : IsLeaf (bool b) := by
  rintro (_ | _) _ <;> rfl

/-- A number has no parts. -/
theorem isLeaf_number (n : Number) : IsLeaf (number n) := by
  rintro (_ | _) _ <;> rfl

/-- A text has no parts. -/
theorem isLeaf_string (s : String) : IsLeaf (string s) := by
  rintro (_ | _) _ <;> rfl

/-- Values without parts have the same shape if they have the same form. -/
theorem IsLeaf.alikeBy_iff {v w : Value} (hv : v.IsLeaf) (hw : w.IsLeaf) :
    AlikeBy R v w ↔ SameForm (R []) v w := by
  refine ⟨AlikeBy.sameForm, fun h place => ?_⟩
  cases place with
  | nil => exact .some h
  | cons step place =>
    rw [hv, hw]
    exact .none

/-- At a place in parts that are alike, forms are the same. -/
theorem rel_bind_part? {x y : Option Value} {R : List Step → Number → Number → Prop}
    (h : Option.Rel (AlikeBy R) x y) (place : List Step) :
    Option.Rel (SameForm (R place)) (x.bind (part? place)) (y.bind (part? place)) := by
  cases h with
  | none => exact .none
  | some h => exact h place

/-- Lists have the same shape if their items have it one by one. -/
theorem alikeBy_array_iff (hR : ∀ i place, R (.item i :: place) = R place) {as bs : List Value} :
    AlikeBy R (array as) (array bs) ↔ List.Forall₂ (AlikeBy R) as bs := by
  rw [← forall_rel_getElem?_iff]
  constructor
  · intro h i
    have hlength : as.length = bs.length := by
      cases h.sameForm with
      | array hlength => exact hlength
    by_cases hi : i < as.length
    · rw [List.getElem?_eq_getElem hi, List.getElem?_eq_getElem (hlength ▸ hi)]
      refine .some fun place => ?_
      have hplace := h (.item i :: place)
      rwa [part?, part?, List.getElem?_eq_getElem hi, List.getElem?_eq_getElem (hlength ▸ hi),
        hR] at hplace
    · rw [List.getElem?_eq_none (by omega), List.getElem?_eq_none (by omega)]
      exact .none
  · intro h place
    match place with
    | [] => exact .some (.array (forall_rel_getElem?_iff.1 h).length_eq)
    | .item i :: place =>
      rw [hR]
      exact rel_bind_part? (h i) place
    | .field key :: place => exact .none

/-- Objects have the same shape if they have the same keys and their entries have it one by one. -/
theorem alikeBy_object_iff {S : List Step → Number → Number → Prop}
    (hR : ∀ key place, R (.field key :: place) = S place) {as bs : List (String × Value)}
    (has : Dict.Increasing as) (hbs : Dict.Increasing bs) :
    AlikeBy R (object as) (object bs) ↔
      List.Forall₂ (fun e e' => e.1 = e'.1 ∧ AlikeBy S e.2 e'.2) as bs := by
  rw [← Dict.forall_rel_find?_iff has hbs]
  constructor
  · intro h key
    have hkeys : key ∈ Dict.keys as ↔ key ∈ Dict.keys bs := by
      cases h.sameForm with
      | object hkeys => exact hkeys key
    by_cases hkey : key ∈ Dict.keys as
    · obtain ⟨a, ha⟩ := Dict.mem_keys_iff.1 hkey
      obtain ⟨b, hb⟩ := Dict.mem_keys_iff.1 (hkeys.1 hkey)
      rw [ha, hb]
      refine .some fun place => ?_
      have hplace := h (.field key :: place)
      rwa [part?, part?, ha, hb, hR] at hplace
    · rw [Dict.find?_eq_none hkey, Dict.find?_eq_none (mt hkeys.2 hkey)]
      exact .none
  · intro h place
    match place with
    | [] =>
      refine .some (.object fun key => ?_)
      rw [Dict.mem_keys_iff, Dict.mem_keys_iff]
      constructor
      · rintro ⟨a, ha⟩
        obtain ⟨b, hb, -⟩ := exists_of_rel_left (h key) ha
        exact ⟨b, hb⟩
      · rintro ⟨b, hb⟩
        obtain ⟨a, ha, -⟩ := exists_of_rel_right (h key) hb
        exact ⟨a, ha⟩
    | .item i :: place => exact .none
    | .field key :: place =>
      rw [hR]
      exact rel_bind_part? (h key) place

section Relations

variable {R' : List Step → Number → Number → Prop} {u v w : Value}

namespace SameForm

variable {r : Number → Number → Prop}

/-- A value has the same form as itself. -/
theorem refl (hr : ∀ m, r m m) (v : Value) : SameForm r v v := by
  cases v with
  | null => exact .null
  | bool b => exact .bool b
  | number m => exact .number (hr m)
  | string s => exact .string s
  | array items => exact .array rfl
  | object fields => exact .object fun _ => Iff.rfl

/-- Forms are the same in either order. -/
theorem symm (hr : ∀ m n, r m n → r n m) (h : SameForm r v w) : SameForm r w v := by
  cases h with
  | null => exact .null
  | bool b => exact .bool b
  | number h => exact .number (hr _ _ h)
  | string s => exact .string s
  | array h => exact .array h.symm
  | object h => exact .object fun key => (h key).symm

/-- Values of the same form are so by any relation that holds of the same numbers. -/
theorem imp {r' : Number → Number → Prop}
    (himp : ∀ m n, v = .number m → w = .number n → r m n → r' m n) (h : SameForm r v w) :
    SameForm r' v w := by
  cases h with
  | null => exact .null
  | bool b => exact .bool b
  | number h => exact .number (himp _ _ rfl rfl h)
  | string s => exact .string s
  | array h => exact .array h
  | object h => exact .object h

/-- Values of the same form as one value are of the same form. -/
theorem trans (hr : ∀ l m n, r l m → r m n → r l n) (h : SameForm r u v) (h' : SameForm r v w) :
    SameForm r u w := by
  cases h with
  | null | bool | string => exact h'
  | number h =>
    cases h' with
    | number h' => exact .number (hr _ _ _ h h')
  | array h =>
    cases h' with
    | array h' => exact .array (h.trans h')
  | object h =>
    cases h' with
    | object h' => exact .object fun key => (h key).trans (h' key)

end SameForm

/-- A value is alike itself. -/
theorem AlikeBy.refl (hR : ∀ place m, R place m m) (v : Value) : AlikeBy R v v := by
  intro place
  cases v.part? place with
  | none => exact .none
  | some u => exact .some (.refl (hR place) u)

/-- Values are alike in either order. -/
theorem AlikeBy.symm (hR : ∀ place m n, R place m n → R place n m) (h : AlikeBy R v w) :
    AlikeBy R w v := by
  intro place
  have hplace := h place
  generalize v.part? place = x at hplace ⊢
  generalize w.part? place = y at hplace ⊢
  cases hplace with
  | none => exact .none
  | some hform => exact .some (hform.symm (hR place))

/-- Values that are alike one value are alike. -/
theorem AlikeBy.trans (hR : ∀ place l m n, R place l m → R place m n → R place l n)
    (h : AlikeBy R u v) (h' : AlikeBy R v w) : AlikeBy R u w := by
  intro place
  have hplace := h place
  have hplace' := h' place
  generalize u.part? place = x at hplace ⊢
  generalize v.part? place = y at hplace hplace'
  generalize w.part? place = z at hplace' ⊢
  cases hplace with
  | none => exact hplace'
  | some hform =>
    cases hplace' with
    | some hform' => exact .some (hform.trans (hR place) hform')

/-- Values that are alike are so by any relation that holds of the same numbers at the same places.
-/
theorem AlikeBy.imp (himp : ∀ place m n, v.part? place = some (number m) →
    w.part? place = some (number n) → R place m n → R' place m n) (h : AlikeBy R v w) :
    AlikeBy R' v w := by
  intro place
  have hplace := h place
  have hnumbers := himp place
  generalize v.part? place = x at hplace hnumbers ⊢
  generalize w.part? place = y at hplace hnumbers ⊢
  cases hplace with
  | none => exact .none
  | some hform =>
    exact .some (hform.imp fun m n hm hn =>
      hnumbers m n (congrArg some hm) (congrArg some hn))

/-- What is asked of numbers matters only at the places where both values have one. -/
theorem alikeBy_congr (h : ∀ place m n, v.part? place = some (number m) →
    w.part? place = some (number n) → (R place m n ↔ R' place m n)) :
    AlikeBy R v w ↔ AlikeBy R' v w :=
  ⟨.imp fun place m n hm hn => (h place m n hm hn).1,
    .imp fun place m n hm hn => (h place m n hm hn).2⟩

/-- Something more is asked of the numbers at the same places. -/
theorem alikeBy_and_iff : AlikeBy (fun place m n => R place m n ∧ R' place m n) v w ↔
    AlikeBy R v w ∧ ∀ place m n, v.part? place = some (number m) →
      w.part? place = some (number n) → R' place m n := by
  refine ⟨fun h => ⟨.imp (fun _ _ _ _ _ h => h.1) h, fun place m n hm hn => ?_⟩,
    fun ⟨h, h'⟩ => .imp (fun place m n hm hn h => ⟨h, h' place m n hm hn⟩) h⟩
  have hplace := h place
  rw [hm, hn] at hplace
  cases hplace with
  | some hform =>
    cases hform with
    | number h => exact h.2

end Relations

section Data

/-- A number is one of template data, and an object lists its entries by increasing key. -/
def Sound : Value → Prop
  | number n => n.IsJson
  | object fields => Dict.Increasing fields
  | _ => True

/-- All parts of the value are as they are in template data. -/
def IsJson (v : Value) : Prop :=
  ∀ place u, v.part? place = some u → u.Sound

/-- A value without parts is one from outside if it is sound itself. -/
theorem IsLeaf.isJson_iff {v : Value} (h : v.IsLeaf) : v.IsJson ↔ v.Sound := by
  refine ⟨fun hv => hv [] v rfl, fun hv place u hu => ?_⟩
  cases place with
  | nil =>
    cases hu
    exact hv
  | cons step place =>
    rw [h] at hu
    cases hu

/-- A list is a value from outside if its items are. -/
theorem isJson_array_iff {items : List Value} : (array items).IsJson ↔ ∀ a ∈ items, a.IsJson := by
  constructor
  · intro h a ha place u hu
    obtain ⟨i, hi⟩ := List.mem_iff_getElem?.1 ha
    apply h (.item i :: place)
    rw [part?, hi]
    exact hu
  · intro h place u hu
    match place with
    | [] =>
      cases hu
      exact trivial
    | .item i :: place =>
      obtain ⟨a, hi, ha⟩ := Option.bind_eq_some_iff.1 hu
      exact h a (List.mem_of_getElem? hi) place u ha
    | .field key :: place => cases hu

/-- An object is a value from outside if its keys are sorted and its values are from outside. -/
theorem isJson_object_iff {fields : List (String × Value)} :
    (object fields).IsJson ↔ Dict.Increasing fields ∧ ∀ e ∈ fields, e.2.IsJson := by
  constructor
  · intro h
    have hincreasing : Dict.Increasing fields := h [] _ rfl
    refine ⟨hincreasing, fun e he place u hu => h (.field e.1 :: place) u ?_⟩
    rw [part?, Dict.find?_of_mem hincreasing he]
    exact hu
  · rintro ⟨hincreasing, h⟩ place u hu
    match place with
    | [] =>
      cases hu
      exact hincreasing
    | .item i :: place => cases hu
    | .field key :: place =>
      obtain ⟨a, hkey, ha⟩ := Option.bind_eq_some_iff.1 hu
      exact h _ (Dict.mem_of_find? hkey) place u ha

/-- Objects of template data are made of values of template data. -/
theorem isJson_ofFields {entries : List (String × Value)} (h : ∀ e ∈ entries, e.2.IsJson) :
    (ofFields entries).IsJson := by
  obtain ⟨hincreasing, hentries⟩ := Dict.increasing_ofList entries
  exact isJson_object_iff.2 ⟨hincreasing, fun e he => h e (hentries e he)⟩

end Data

end Value

end Stencil
