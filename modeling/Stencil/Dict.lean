/-!
# Maps with text keys

A map is a list of entries in increasing order of their keys, compared by code points.  Inserting
keeps that order and replaces an entry of the same key, so the order in which a map is walked does
not depend on how it was built.
-/

set_option autoImplicit false

namespace Stencil

/-- A map from text keys, listed by increasing key. -/
abbrev Dict (α : Type) := List (String × α)

namespace Dict

variable {α : Type}

/-- The value under a key. -/
def find? (key : String) : List (String × α) → Option α
  | [] => none
  | (k, v) :: rest => if k = key then some v else find? key rest

/-- Binds a key, in place of its earlier value where it has one. -/
def insert (key : String) (value : α) : List (String × α) → List (String × α)
  | [] => [(key, value)]
  | (k, v) :: rest =>
    if k = key then (key, value) :: rest
    else if key < k then (key, value) :: (k, v) :: rest
    else (k, v) :: insert key value rest

/-- The map with the given entries, where a later one replaces an earlier one of the same key. -/
def ofList (entries : List (String × α)) : List (String × α) :=
  entries.foldl (fun d e => insert e.1 e.2 d) []

/-- Whether a key is bound. -/
def contains (key : String) (d : List (String × α)) : Bool :=
  (find? key d).isSome

/-- The bound keys in order. -/
def keys (d : List (String × α)) : List String :=
  d.map Prod.fst

/-- A key reads back what was bound to it last. -/
theorem find?_insert_self (key : String) (value : α) (d : List (String × α)) :
    find? key (insert key value d) = some value := by
  induction d with
  | nil => simp [insert, find?]
  | cons e rest ih =>
    obtain ⟨k, v⟩ := e
    simp only [insert]
    split
    · simp [find?]
    · split
      · simp [find?]
      · next hne _ => simp [find?, hne, ih]

/-- Binding a key leaves every other key as it was. -/
theorem find?_insert_of_ne {key other : String} (h : other ≠ key) (value : α)
    (d : List (String × α)) : find? other (insert key value d) = find? other d := by
  induction d with
  | nil => simp [insert, find?, Ne.symm h]
  | cons e rest ih =>
    obtain ⟨k, v⟩ := e
    simp only [insert]
    split
    · next hk => simp [find?, Ne.symm h, hk]
    · split
      · simp [find?, Ne.symm h]
      · simp [find?, ih]

/-- A key that is found is one of the keys. -/
theorem mem_keys_of_find? {key : String} {value : α} {d : List (String × α)}
    (h : find? key d = some value) : key ∈ keys d := by
  induction d with
  | nil => simp [find?] at h
  | cons e rest ih =>
    obtain ⟨k, v⟩ := e
    simp only [find?] at h
    split at h
    · next hk => simp [keys, hk]
    · exact List.mem_cons_of_mem _ (ih h)

end Dict

end Stencil
