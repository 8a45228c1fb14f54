import Mathlib.Data.List.TakeWhile

/-!
# Runs of characters

A text is read by taking the longest run of characters of a class off its front.  What comes behind
the run does not matter as long as it begins with another character.
-/

set_option autoImplicit false

namespace Stencil

/-- Characters of a class in front of one that is not in it are taken off whole. -/
theorem takeWhile_dropWhile_append {α : Type} {p : α → Bool} {l more : List α}
    (hl : ∀ a ∈ l, p a = true) (hmore : ∀ a ∈ more.head?, p a = false) :
    (l ++ more).takeWhile p = l ∧ (l ++ more).dropWhile p = more := by
  rw [List.takeWhile_append_of_pos hl, List.dropWhile_append_of_pos hl]
  cases more with
  | nil => simp
  | cons a more => simp [hmore a rfl]

/-- What is left of a list begins with an element that is not dropped. -/
theorem head?_dropWhile {α : Type} (p : α → Bool) (l : List α) :
    ∀ a ∈ (l.dropWhile p).head?, p a = false := by
  intro a ha
  have h := List.head?_dropWhile_not p l
  rwa [Option.mem_def.1 ha] at h

end Stencil
