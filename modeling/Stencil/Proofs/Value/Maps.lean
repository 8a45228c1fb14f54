import Mathlib.Data.List.Forall2
import Mathlib.Data.List.Induction
import Mathlib.Data.Option.Basic
import Mathlib.Data.String.Basic
import Stencil.Dict

/-!
# Maps by increasing key

Binding a key keeps a map listed by increasing key (`Dict.Increasing.insert`), and in such a map the
value of a key is the one that it is listed with (`Dict.find?_of_mem`).  So two maps agree on all
keys just if they agree entry by entry (`Dict.forall_rel_find?_iff`), as two lists agree at all
positions just if they agree item by item (`forall_rel_getElem?_iff`).
-/

set_option autoImplicit false

namespace Stencil

section Options

variable {α β : Type} {r : α → β → Prop} {x : Option α} {y : Option β}

/-- A related option has a value where the first one has. -/
theorem exists_of_rel_left {a : α} (h : Option.Rel r x y) (hx : x = some a) :
    ∃ b, y = some b ∧ r a b := by
  subst hx
  cases h with
  | some h => exact ⟨_, rfl, h⟩

/-- A related option has a value where the second one has. -/
theorem exists_of_rel_right {b : β} (h : Option.Rel r x y) (hy : y = some b) :
    ∃ a, x = some a ∧ r a b := by
  subst hy
  cases h with
  | some h => exact ⟨_, rfl, h⟩

end Options

namespace Dict

variable {α β : Type}

/-- What is found in a map is in it. -/
theorem mem_of_find? {key : String} {a : α} {d : List (String × α)} (h : find? key d = some a) :
    (key, a) ∈ d := by
  induction d with
  | nil => cases h
  | cons e rest ih =>
    obtain ⟨k, b⟩ := e
    unfold find? at h
    split at h
    · next hk =>
      cases h
      exact hk ▸ List.mem_cons_self
    · exact List.mem_cons_of_mem _ (ih h)

/-- A key of a map is one that something is found under. -/
theorem mem_keys_iff {key : String} {d : List (String × α)} :
    key ∈ keys d ↔ ∃ a, find? key d = some a := by
  refine ⟨fun h => ?_, fun ⟨_, h⟩ => mem_keys_of_find? h⟩
  induction d with
  | nil => cases h
  | cons e rest ih =>
    obtain ⟨k, b⟩ := e
    unfold find?
    split
    · exact ⟨b, rfl⟩
    · next hne => exact ih ((List.mem_cons.1 h).resolve_left fun heq => hne heq.symm)

/-- Nothing is found under what is no key. -/
theorem find?_eq_none {key : String} {d : List (String × α)} (h : key ∉ keys d) :
    find? key d = none := by
  cases hfind : find? key d with
  | none => rfl
  | some a => exact absurd (mem_keys_of_find? hfind) h

/-- The entries are listed by increasing key, and so no key is listed twice. -/
def Increasing (d : List (String × α)) : Prop :=
  d.Pairwise fun e e' => e.1 < e'.1

/-- The first key of a sorted map is the least. -/
theorem Increasing.head_le {k key : String} {a b : α} {d : List (String × α)}
    (h : Increasing ((k, a) :: d)) (hfind : find? key ((k, a) :: d) = some b) : k ≤ key := by
  rcases List.mem_cons.1 (mem_of_find? hfind) with heq | hrest
  · cases heq
    exact le_rfl
  · exact ((List.pairwise_cons.1 h).1 _ hrest).le

/-- In a sorted map, the first key does not come again. -/
theorem Increasing.notMem_keys {key : String} {a : α} {d : List (String × α)}
    (h : Increasing ((key, a) :: d)) : key ∉ keys d := by
  intro hmem
  obtain ⟨e, he, rfl⟩ := List.mem_map.1 hmem
  exact lt_irrefl _ ((List.pairwise_cons.1 h).1 e he)

/-- An entry that is there when one was inserted is this one or was there before. -/
theorem eq_or_mem_of_mem_insert {key : String} {a : α} {d : List (String × α)} {e : String × α}
    (h : e ∈ insert key a d) : e = (key, a) ∨ e ∈ d := by
  induction d with
  | nil => exact .inl (List.mem_singleton.1 h)
  | cons e' rest ih =>
    obtain ⟨k, b⟩ := e'
    unfold insert at h
    split at h
    · exact (List.mem_cons.1 h).imp_right (List.mem_cons_of_mem _)
    · split at h
      · exact List.mem_cons.1 h
      · rcases List.mem_cons.1 h with rfl | hrest
        · exact .inr List.mem_cons_self
        · exact (ih hrest).imp_right (List.mem_cons_of_mem _)

/-- Binding a key keeps the order of the keys. -/
theorem Increasing.insert {d : List (String × α)} (h : Increasing d) (key : String) (a : α) :
    Increasing (insert key a d) := by
  induction d with
  | nil => exact List.pairwise_singleton _ _
  | cons e rest ih =>
    obtain ⟨k, b⟩ := e
    obtain ⟨hfirst, hrest⟩ := List.pairwise_cons.1 h
    unfold Dict.insert
    split
    · next heq => exact List.pairwise_cons.2 ⟨heq ▸ hfirst, hrest⟩
    · next hne =>
      split
      · next hlt =>
        refine List.pairwise_cons.2 ⟨fun e' he' => ?_, h⟩
        rcases List.mem_cons.1 he' with rfl | hmem
        · exact hlt
        · exact hlt.trans (hfirst e' hmem)
      · next hge =>
        refine List.pairwise_cons.2 ⟨fun e' he' => ?_, ih hrest⟩
        rcases eq_or_mem_of_mem_insert he' with rfl | hmem
        · exact lt_of_le_of_ne (not_lt.1 hge) hne
        · exact hfirst e' hmem

/-- Maps that are made of entries list them by increasing key and have no others. -/
theorem increasing_ofList (entries : List (String × α)) :
    Increasing (ofList entries) ∧ ∀ e ∈ ofList entries, e ∈ entries := by
  induction entries using List.reverseRecOn with
  | nil => exact ⟨.nil, nofun⟩
  | append_singleton entries e ih =>
    have hlast : ofList (entries ++ [e]) = Dict.insert e.1 e.2 (ofList entries) :=
      List.foldl_concat ..
    rw [hlast]
    refine ⟨ih.1.insert _ _, fun e' he' => ?_⟩
    rcases eq_or_mem_of_mem_insert he' with rfl | hmem
    · exact List.mem_concat_self
    · exact List.mem_append_left _ (ih.2 e' hmem)

/-- An entry of a sorted map is found under its key. -/
theorem find?_of_mem {key : String} {a : α} {d : List (String × α)} (h : Increasing d)
    (hmem : (key, a) ∈ d) : find? key d = some a := by
  induction d with
  | nil => cases hmem
  | cons e rest ih =>
    obtain ⟨k, b⟩ := e
    rcases List.mem_cons.1 hmem with heq | hrest
    · cases heq
      exact if_pos rfl
    · have hne : k ≠ key := by
        rintro rfl
        exact h.notMem_keys (List.mem_map_of_mem hrest)
      rw [find?, if_neg hne]
      exact ih (List.pairwise_cons.1 h).2 hrest

section Agreement

variable {Q : α → β → Prop}

/-- Each of the least keys of two maps that agree on all keys is a key of the other map. -/
theorem eq_and_rel_of_rel_find? {k l : String} {a : α} {b : β} {as : List (String × α)}
    {bs : List (String × β)} (has : Increasing ((k, a) :: as)) (hbs : Increasing ((l, b) :: bs))
    (h : ∀ key, Option.Rel Q (find? key ((k, a) :: as)) (find? key ((l, b) :: bs))) :
    k = l ∧ Q a b := by
  obtain ⟨b', hb', hab⟩ := exists_of_rel_left (h k) (find?_of_mem has List.mem_cons_self)
  obtain ⟨a', ha', -⟩ := exists_of_rel_right (h l) (find?_of_mem hbs List.mem_cons_self)
  obtain rfl : k = l := le_antisymm (has.head_le ha') (hbs.head_le hb')
  rw [find?_of_mem hbs List.mem_cons_self] at hb'
  cases hb'
  exact ⟨rfl, hab⟩

/-- Sorted maps in which related values are found under each key have related entries. -/
theorem forall₂_of_rel_find? {as : List (String × α)} {bs : List (String × β)}
    (has : Increasing as) (hbs : Increasing bs)
    (h : ∀ key, Option.Rel Q (find? key as) (find? key bs)) :
    List.Forall₂ (fun e e' => e.1 = e'.1 ∧ Q e.2 e'.2) as bs := by
  induction as generalizing bs with
  | nil =>
    cases bs with
    | nil => exact .nil
    | cons e bs =>
      have hfirst := h e.1
      rw [find?_of_mem hbs List.mem_cons_self] at hfirst
      cases hfirst
  | cons e as ih =>
    obtain ⟨k, a⟩ := e
    cases bs with
    | nil =>
      have hfirst := h k
      rw [find?_of_mem has List.mem_cons_self] at hfirst
      cases hfirst
    | cons e' bs =>
      obtain ⟨l, b⟩ := e'
      obtain ⟨rfl, hab⟩ := eq_and_rel_of_rel_find? has hbs h
      refine .cons ⟨rfl, hab⟩ (ih (List.pairwise_cons.1 has).2 (List.pairwise_cons.1 hbs).2 ?_)
      intro key
      by_cases hkey : k = key
      · rw [find?_eq_none (hkey ▸ has.notMem_keys), find?_eq_none (hkey ▸ hbs.notMem_keys)]
        exact .none
      · have hrest := h key
        rwa [find?, find?, if_neg hkey, if_neg hkey] at hrest

/-- Maps that list their entries by increasing key agree on all keys if and only if they agree entry
by entry. -/
theorem forall_rel_find?_iff {as : List (String × α)} {bs : List (String × β)}
    (has : Increasing as) (hbs : Increasing bs) :
    (∀ key, Option.Rel Q (find? key as) (find? key bs)) ↔
      List.Forall₂ (fun e e' => e.1 = e'.1 ∧ Q e.2 e'.2) as bs := by
  refine ⟨forall₂_of_rel_find? has hbs, fun h key => ?_⟩
  induction h with
  | nil => exact .none
  | @cons e e' as bs he hrest ih =>
    obtain ⟨k, a⟩ := e
    obtain ⟨l, b⟩ := e'
    obtain ⟨rfl, hab⟩ := he
    unfold find?
    split
    · exact .some hab
    · exact ih (List.pairwise_cons.1 has).2 (List.pairwise_cons.1 hbs).2

end Agreement

end Dict

/-- Lists are related by any relation that is the same on their elements. -/
theorem forall₂_congr_of_mem {α β : Type} {P Q : α → β → Prop} {as : List α} {bs : List β}
    (h : ∀ a ∈ as, ∀ b ∈ bs, (P a b ↔ Q a b)) : List.Forall₂ P as bs ↔ List.Forall₂ Q as bs := by
  induction as generalizing bs with
  | nil => cases bs <;> simp
  | cons a as ih =>
    cases bs with
    | nil => simp
    | cons b bs =>
      rw [List.forall₂_cons, List.forall₂_cons, h a List.mem_cons_self b List.mem_cons_self,
        ih fun a ha b hb => h a (List.mem_cons_of_mem _ ha) b (List.mem_cons_of_mem _ hb)]

/-- Lists are related just if their elements are at each place. -/
theorem forall_rel_getElem?_iff {α β : Type} {Q : α → β → Prop} {as : List α} {bs : List β} :
    (∀ i : Nat, Option.Rel Q as[i]? bs[i]?) ↔ List.Forall₂ Q as bs := by
  induction as generalizing bs with
  | nil =>
    cases bs with
    | nil => exact ⟨fun _ => .nil, fun _ _ => .none⟩
    | cons b bs => exact ⟨fun h => (nomatch h 0), nofun⟩
  | cons a as ih =>
    cases bs with
    | nil => exact ⟨fun h => (nomatch h 0), nofun⟩
    | cons b bs =>
      rw [List.forall₂_cons, ← ih]
      refine ⟨fun h => ⟨?_, fun i => h (i + 1)⟩, fun h i => ?_⟩
      · cases h 0 with
        | some hab => exact hab
      · cases i with
        | zero => exact .some h.1
        | succ i => exact h.2 i

end Stencil
