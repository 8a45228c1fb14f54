/-!
# Classes of characters given by ranges of code points

A class is a list of closed ranges in increasing order.  Membership walks the list and stops at the
first range that begins after the code point.
-/

set_option autoImplicit false

namespace Stencil.Text

/-- A closed range of code points, first and last. -/
abbrev Range := Nat × Nat

/-- Whether a code point lies in one of the ranges, which are listed in increasing order. -/
def inRanges : List Range → Nat → Bool
  | [], _ => false
  | (first, last) :: rest, n => if n < first then false else if n ≤ last then true else inRanges rest n

/-- A code point in a table lies in one of its ranges. -/
theorem exists_range_of_inRanges {table : List Range} {n : Nat} (h : inRanges table n = true) :
    ∃ r ∈ table, r.1 ≤ n ∧ n ≤ r.2 := by
  induction table with
  | nil => simp [inRanges] at h
  | cons r rest ih =>
    obtain ⟨first, last⟩ := r
    simp only [inRanges] at h
    split at h
    · simp at h
    · split at h
      · exact ⟨(first, last), by simp, by simp; omega⟩
      · obtain ⟨r, hr, hn⟩ := ih h
        exact ⟨r, List.mem_cons_of_mem _ hr, hn⟩

end Stencil.Text
