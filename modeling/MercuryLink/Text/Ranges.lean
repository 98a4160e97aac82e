/-!
# Ranges of characters

A class of characters is kept as a table of ranges of code points, in ascending order. The
main statement says that looking a code point up in such a table finds the range that it lies in.
-/

namespace MercuryLink.Text

/-- Whether a code point lies in one of the ranges, whose ends are included. -/
def inRanges : List (Nat × Nat) → Nat → Bool
  | [], _ => false
  | (first, last) :: rest, n => first ≤ n && (n ≤ last || inRanges rest n)

/-- What is found lies in a range of the table. -/
theorem exists_mem_of_inRanges {ranges : List (Nat × Nat)} {n : Nat}
    (h : inRanges ranges n = true) : ∃ r ∈ ranges, r.1 ≤ n ∧ n ≤ r.2 := by
  induction ranges with
  | nil => simp [inRanges] at h
  | cons r rest ih =>
    simp only [inRanges, Bool.and_eq_true, Bool.or_eq_true, decide_eq_true_eq] at h
    obtain ⟨hfirst, hlast | hrest⟩ := h
    · exact ⟨r, List.mem_cons_self .., hfirst, hlast⟩
    · obtain ⟨r', hr', hn⟩ := ih hrest
      exact ⟨r', List.mem_cons_of_mem _ hr', hn⟩

/-- In an ascending table, everything that lies in a range is found. -/
theorem inRanges_iff {ranges : List (Nat × Nat)} {n : Nat}
    (ascending : ranges.Pairwise fun a b => a.1 ≤ b.1) :
    inRanges ranges n = true ↔ ∃ r ∈ ranges, r.1 ≤ n ∧ n ≤ r.2 := by
  refine ⟨exists_mem_of_inRanges, ?_⟩
  rintro ⟨r, hr, hfirst, hlast⟩
  induction ranges with
  | nil => simp at hr
  | cons s rest ih =>
    obtain ⟨hs, hrest⟩ := List.pairwise_cons.1 ascending
    simp only [inRanges, Bool.and_eq_true, Bool.or_eq_true, decide_eq_true_eq]
    obtain rfl | hr := List.mem_cons.1 hr
    · exact ⟨hfirst, .inl hlast⟩
    · exact ⟨Nat.le_trans (hs r hr) hfirst, .inr (ih hrest hr)⟩

end MercuryLink.Text
