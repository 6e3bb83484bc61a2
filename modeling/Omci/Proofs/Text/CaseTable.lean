import Omci.Proofs.Text.Casing

/-!
# Where the case tables lead

A run maps its code points into the stretch of codes that begins at its image
and is as long as the run. So a run keeps out of a range of codes if that
stretch does, and whether a whole table keeps out of given ranges is decided run
by run. A character in neither table stays as it is, whatever ranges it is in.
-/

namespace Omci.Text

/-- No image of the run lies in one of the ranges. -/
def CaseRun.avoids (ranges : CodeRanges) (run : CaseRun) : Bool :=
  ranges.all fun range =>
    run.image + (run.last - run.first) < range.1 || range.2 < run.image

theorem CaseRun.not_within_image {ranges : CodeRanges} {run : CaseRun}
    (h : run.avoids ranges = true) {code image : Nat}
    (himage : run.image? code = some image) :
    ∀ range ∈ ranges, image < range.1 ∨ range.2 < image := by
  intro range hrange
  have houtside := List.all_eq_true.1 h range hrange
  rw [Bool.or_eq_true, decide_eq_true_eq, decide_eq_true_eq] at houtside
  unfold CaseRun.image? at himage
  split at himage
  · cases himage
    omega
  · cases himage

/-- A code in none of the ranges is no character of theirs. What is no code of a
character stands for the null character. -/
theorem has_ofNat_eq_false {ranges : CodeRanges} (hnull : ranges.has (Char.ofNat 0) = false)
    {code : Nat} (h : ∀ range ∈ ranges, code < range.1 ∨ range.2 < code) :
    ranges.has (Char.ofNat code) = false := by
  by_cases hvalid : code.isValidChar
  · refine List.any_eq_false.2 fun range hrange => ?_
    have houtside := h range hrange
    rw [code_ofNat hvalid, Bool.and_eq_true, decide_eq_true_eq, decide_eq_true_eq]
    omega
  · have hself : Char.ofNat code = Char.ofNat 0 := by
      rw [Char.ofNat, dif_neg hvalid]
      rfl
    rw [hself, hnull]

theorem has_eq_false_of_mem_mapCase {ranges : CodeRanges}
    (hnull : ranges.has (Char.ofNat 0) = false) {runs : List CaseRun}
    (hruns : ∀ run ∈ runs, run.avoids ranges = true) {expansions : List (Nat × List Nat)}
    (hexpansions : ∀ entry ∈ expansions, ∀ code ∈ entry.2,
      ranges.has (Char.ofNat code) = false)
    {c d : Char} (hd : d ∈ mapCase runs expansions c) : d = c ∨ ranges.has d = false := by
  unfold mapCase at hd
  split at hd
  · next codes hlookup =>
    obtain ⟨before, behind, hsplit, -⟩ := List.lookup_eq_some_iff.1 hlookup
    have hentry : (c.toNat, codes) ∈ expansions := by
      rw [hsplit]
      exact List.mem_append_right _ List.mem_cons_self
    obtain ⟨code, hcode, rfl⟩ := List.mem_map.1 hd
    exact .inr (hexpansions _ hentry code hcode)
  · split at hd
    · next image hfound =>
      obtain ⟨run, hrun, himage⟩ := List.exists_of_findSome?_eq_some hfound
      rw [List.mem_singleton.1 hd]
      exact .inr (has_ofNat_eq_false hnull (run.not_within_image (hruns run hrun) himage))
    · exact .inl (List.mem_singleton.1 hd)

end Omci.Text
