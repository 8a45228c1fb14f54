import Stencil.Proofs.Value.Places
import Stencil.Value.Compare

/-!
# Equality of values

Two values are equal if they have the same shape and their numbers are equal at every place, and of
one kind too at the places inside objects (`Value.equals_iff_alikeBy`).  For below an object values
are compared by an equality that tells integers from floating point numbers
(`Value.same_iff_alikeBy`), while the items of lists are compared as the lists are.
-/

set_option autoImplicit false

namespace Stencil.Value

section Lists

variable {as bs : List Value}

/-- Lists are the same just if their items are. -/
theorem sameItems_iff :
    sameItems as bs = true ↔ List.Forall₂ (fun a b => a.same b = true) as bs := by
  induction as generalizing bs with
  | nil => cases bs <;> simp [sameItems]
  | cons a as ih => cases bs <;> simp [sameItems, ih]

/-- Lists are equal just if their items are. -/
theorem equalItems_iff :
    equalItems as bs = true ↔ List.Forall₂ (fun a b => a.equals b = true) as bs := by
  induction as generalizing bs with
  | nil => cases bs <;> simp [equalItems]
  | cons a as ih => cases bs <;> simp [equalItems, ih]

/-- Objects are the same just if their keys are and the values under them. -/
theorem sameFields_iff {as bs : List (String × Value)} : sameFields as bs = true ↔
    List.Forall₂ (fun e e' => e.1 = e'.1 ∧ e.2.same e'.2 = true) as bs := by
  induction as generalizing bs with
  | nil => cases bs <;> simp [sameFields]
  | cons a as ih => cases bs <;> simp [sameFields, ih]

end Lists

/-- Below an object values are equal if they have the same shape and the same numbers, of one kind
at every place. -/
theorem same_iff_alikeBy {v w : Value} (hv : v.IsJson) (hw : w.IsJson) :
    v.same w = true ↔ AlikeBy (fun _ => Number.Identical) v w := by
  induction v using inductionOn generalizing w with | step v ih => ?_
  cases v <;> cases w
  case array.array as bs =>
    rw [alikeBy_array_iff fun _ _ => rfl, same, sameItems_iff]
    exact forall₂_congr_of_mem fun a ha b hb =>
      ih a (.item ha) (isJson_array_iff.1 hv a ha) (isJson_array_iff.1 hw b hb)
  case object.object as bs =>
    obtain ⟨has, hvalues⟩ := isJson_object_iff.1 hv
    obtain ⟨hbs, hvalues'⟩ := isJson_object_iff.1 hw
    rw [alikeBy_object_iff (fun _ _ => rfl) has hbs, same, sameFields_iff]
    exact forall₂_congr_of_mem fun e he e' he' =>
      and_congr_right fun _ => ih e.2 (.entry he) (hvalues e he) (hvalues' e' he')
  case number.number m n =>
    rw [(isLeaf_number m).alikeBy_iff (isLeaf_number n), same, Number.sameKind_iff
      ((isLeaf_number m).isJson_iff.1 hv) ((isLeaf_number n).isJson_iff.1 hw)]
    exact ⟨.number, fun | .number h => h⟩
  case null.null => exact ⟨fun _ => isLeaf_null.alikeBy_iff isLeaf_null |>.2 .null, fun _ => rfl⟩
  case bool.bool a b =>
    rw [(isLeaf_bool a).alikeBy_iff (isLeaf_bool b), same, beq_iff_eq]
    exact ⟨fun h => h ▸ .bool a, fun | .bool _ => rfl⟩
  case string.string s t =>
    rw [(isLeaf_string s).alikeBy_iff (isLeaf_string t), same, beq_iff_eq]
    exact ⟨fun h => h ▸ .string s, fun | .string _ => rfl⟩
  all_goals exact ⟨by simp [same], fun h => nomatch h.sameForm⟩

/-- The place is inside an object. -/
def behindKey : List Step → Bool
  | [] => false
  | .item _ :: place => behindKey place
  | .field _ :: _ => true

/-- Numbers at a place count as equal if they are equal by value, and inside an object of one kind
too. -/
def equatedAt (place : List Step) (m n : Number) : Prop :=
  m.weight = n.weight ∧ (behindKey place = true → m.Identical n)

/-- Numbers are equal just if they weigh the same. -/
theorem equals_number_iff {m n : Number} (hm : m.IsJson) (hn : n.IsJson) :
    (number m).equals (number n) = true ↔ m.weight = n.weight := by
  rw [equals]
  exact Number.beq_toFloat_iff hm hn

/-- Inside an object numbers count as equal if they are equal and of one kind. -/
theorem equatedAt_field (key : String) (place : List Step) :
    equatedAt (.field key :: place) = Number.Identical := by
  funext m n
  exact propext ⟨fun h => h.2 rfl, fun h => ⟨h.weight_eq, fun _ => h⟩⟩

/-- Unless two values are numbers or lists, their numbers are inside objects. -/
theorem alikeBy_equatedAt_iff {v w : Value}
    (hnumbers : ∀ m n, v = number m → w = number n → False)
    (harrays : ∀ as bs, v = array as → w = array bs → False) :
    AlikeBy equatedAt v w ↔ AlikeBy (fun _ => Number.Identical) v w := by
  apply alikeBy_congr
  intro place m n hm hn
  match place with
  | [] => exact (hnumbers m n (Option.some_inj.1 hm) (Option.some_inj.1 hn)).elim
  | .field key :: place => rw [equatedAt_field]
  | .item i :: place =>
    cases v with
    | array as =>
      cases w with
      | array bs => exact (harrays as bs rfl rfl).elim
      | null | bool | number | string | object => cases hn
    | null | bool | number | string | object => cases hm

/-- Values are equal if they have the same shape and their numbers count as equal where they are. -/
theorem equals_iff_alikeBy {v w : Value} (hv : v.IsJson) (hw : w.IsJson) :
    v.equals w = true ↔ AlikeBy equatedAt v w := by
  induction v using inductionOn generalizing w with | step v ih => ?_
  fun_cases equals v w with
  | case1 m n =>
    have hform := (isLeaf_number m).alikeBy_iff (R := equatedAt) (isLeaf_number n)
    have hweight := Number.beq_toFloat_iff ((isLeaf_number m).isJson_iff.1 hv)
      ((isLeaf_number n).isJson_iff.1 hw)
    rw [hform, hweight]
    exact ⟨fun h => .number ⟨h, nofun⟩, fun | .number h => h.1⟩
  | case2 as bs =>
    rw [alikeBy_array_iff fun _ _ => rfl, equalItems_iff]
    exact forall₂_congr_of_mem fun a ha b hb =>
      ih a (.item ha) (isJson_array_iff.1 hv a ha) (isJson_array_iff.1 hw b hb)
  | case3 v w hnumbers harrays =>
    rw [alikeBy_equatedAt_iff hnumbers harrays]
    exact same_iff_alikeBy hv hw

section Equivalence

variable {u v w : Value}

/-- A value equals itself. -/
theorem equals_refl (hv : v.IsJson) : v.equals v = true :=
  (equals_iff_alikeBy hv hv).2 (.refl (fun _ n => ⟨rfl, fun _ => .refl n⟩) v)

/-- Equality holds in either order. -/
theorem equals_symm (hv : v.IsJson) (hw : w.IsJson) (h : v.equals w = true) :
    w.equals v = true :=
  (equals_iff_alikeBy hw hv).2 (.symm
    (fun _ _ _ h => ⟨h.1.symm, fun hkey => (h.2 hkey).symm⟩) ((equals_iff_alikeBy hv hw).1 h))

/-- Values that equal one value are equal. -/
theorem equals_trans (hu : u.IsJson) (hv : v.IsJson) (hw : w.IsJson) (h : u.equals v = true)
    (h' : v.equals w = true) : u.equals w = true :=
  (equals_iff_alikeBy hu hw).2 (.trans
    (fun _ _ _ _ h h' => ⟨h.1.trans h'.1, fun hkey => (h.2 hkey).trans (h'.2 hkey)⟩)
    ((equals_iff_alikeBy hu hv).1 h) ((equals_iff_alikeBy hv hw).1 h'))

end Equivalence

/-- Numbers at a place count as equal if the equality of values says so of the two alone and, inside
an object, if they are of one kind too. -/
theorem alikeBy_equatedAt_iff_and {v w : Value} (hv : v.IsJson) (hw : w.IsJson) :
    AlikeBy equatedAt v w ↔
      AlikeBy (fun _ m n => (number m).equals (number n) = true) v w ∧
        ∀ place m n, v.part? place = some (number m) → w.part? place = some (number n) →
          behindKey place = true → m.sameKind n = true := by
  rw [← alikeBy_and_iff]
  refine alikeBy_congr fun place m n hm hn => ?_
  have hm : m.IsJson := hv place _ hm
  have hn : n.IsJson := hw place _ hn
  rw [equals_number_iff hm hn, Number.sameKind_iff hm hn]
  rfl

/-- Two values are equal if they have the same shape, their numbers are equal at every place, and
the numbers inside objects are of one kind besides.  So numbers that are not inside objects may be
replaced by equal ones. -/
theorem equals_structural {v w : Value} (hv : v.IsJson) (hw : w.IsJson) :
    (v.equals w = true ↔
      AlikeBy (fun _ m n => (number m).equals (number n) = true) v w ∧
        ∀ place m n, v.part? place = some (number m) → w.part? place = some (number n) →
          behindKey place = true → m.sameKind n = true) ∧
      ∀ v' : Value, v'.IsJson →
        AlikeBy (fun place m n => (number m).equals (number n) = true ∧
          (behindKey place = true → m = n)) v v' → v'.equals w = v.equals w := by
  refine ⟨(equals_iff_alikeBy hv hw).trans (alikeBy_equatedAt_iff_and hv hw), fun v' hv' h => ?_⟩
  have hreplaced : v.equals v' = true := by
    rw [equals_iff_alikeBy hv hv']
    refine .imp (fun place m n hm hn h => ⟨?_, fun hkey => ?_⟩) h
    · exact (equals_number_iff (hv place _ hm) (hv' place _ hn)).1 h.1
    · rw [h.2 hkey]
      exact .refl n
  rw [Bool.eq_iff_iff]
  exact ⟨equals_trans hv hv' hw hreplaced, equals_trans hv' hv hw (equals_symm hv hv' hreplaced)⟩

/-- An object that holds a number. -/
def holder (n : Number) : Value :=
  ofFields [("a", number n)]

/-- An object with a number is a value from outside. -/
theorem isJson_holder {n : Number} (h : n.IsJson) : (holder n).IsJson := by
  refine isJson_ofFields fun e he => ?_
  cases List.mem_singleton.1 he
  exact (isLeaf_number n).isJson_iff.2 h

/-- Objects with numbers that are related are alike. -/
theorem alikeBy_holder {r : Number → Number → Prop} {m n : Number} (h : r m n) :
    AlikeBy (fun _ => r) (holder m) (holder n) := by
  have hsingle (n : Number) : Dict.Increasing [("a", number n)] := List.pairwise_singleton _ _
  refine (alikeBy_object_iff (fun _ _ => rfl) (hsingle m) (hsingle n)).2 (.cons ⟨rfl, ?_⟩ .nil)
  exact ((isLeaf_number m).alikeBy_iff (isLeaf_number n)).2 (.number h)

/-- The integer one. -/
def wholeOne : Number :=
  .int 1

/-- The floating point number one. -/
def floatOne : Number :=
  .float 1.0

/-- One as an integer is a value from outside. -/
theorem isJson_wholeOne : wholeOne.IsJson :=
  .inl (by decide)

/-- One as a floating point number is a value from outside. -/
theorem isJson_floatOne : floatOne.IsJson := by
  show Float.isFinite 1.0 = true
  decide +kernel

/-- One as an integer equals one as a floating point number. -/
theorem wholeOne_equals_floatOne : (number wholeOne).equals (number floatOne) = true := by
  decide +kernel

/-- In an object the integer one and the floating point number one are different, though they are
equal alone, and to put one in the place of the other changes what the object is equal to. -/
theorem holder_not_structural : (holder wholeOne).IsJson ∧ (holder floatOne).IsJson ∧
    AlikeBy (fun _ m n => (number m).equals (number n) = true) (holder wholeOne)
      (holder floatOne) ∧
    (holder wholeOne).equals (holder floatOne) = false ∧
    (holder wholeOne).equals (holder wholeOne) = true :=
  ⟨isJson_holder isJson_wholeOne, isJson_holder isJson_floatOne,
    alikeBy_holder wholeOne_equals_floatOne, by decide +kernel, by decide +kernel⟩

/-- A number beside an object that holds the integer one. -/
def beside (n : Number) : Value :=
  array [number n, holder wholeOne]

/-- A list with a number and an object is a value from outside. -/
theorem isJson_beside {n : Number} (h : n.IsJson) : (beside n).IsJson := by
  refine isJson_array_iff.2 fun a ha => ?_
  rcases List.mem_pair.1 ha with rfl | rfl
  · exact (isLeaf_number n).isJson_iff.2 h
  · exact isJson_holder isJson_wholeOne

/-- Beside an object a number may be replaced by an equal one. -/
theorem equals_structural_beside : (beside wholeOne).IsJson ∧ (beside floatOne).IsJson ∧
    (beside wholeOne).equals (beside floatOne) = true := by
  have hwhole := isJson_beside isJson_wholeOne
  have hfloat := isJson_beside isJson_floatOne
  refine ⟨hwhole, hfloat, (equals_structural hwhole hfloat).1.2 ⟨?_, ?_⟩⟩
  · refine (alikeBy_array_iff fun _ _ => rfl).2 (.cons ?_ (.cons ?_ .nil))
    · exact ((isLeaf_number _).alikeBy_iff (isLeaf_number _)).2 (.number wholeOne_equals_floatOne)
    · exact alikeBy_holder (by decide +kernel)
  · intro place m n hm hn hkey
    match place with
    | [] => cases hkey
    | .field key :: place => cases hm
    | [.item 0] => cases hkey
    | .item 0 :: step :: place =>
      have hnone : (beside wholeOne).part? (.item 0 :: step :: place) = none :=
        isLeaf_number wholeOne step place
      rw [hnone] at hm
      cases hm
    | .item 1 :: place =>
      have heq : m = n := by
        have hsame := hm.symm.trans hn
        cases hsame
        rfl
      exact heq ▸ (Number.sameKind_iff (hwhole _ _ hm) (hwhole _ _ hm)).2 (.refl m)
    | .item (_ + 2) :: place => cases hm

end Stencil.Value
