import Omci.Notification.ValueChanges
import Omci.Proofs.Ascending

/-!
# Numbers that can be notified

A row that notifies gives one number, and it must be one that attributes other
than the identifier have. Number 0 and ranges are understood too, but only
where they reserve. So no table that has been read notifies a number outside 1
to 16, whatever rows it has and in whatever order they replace one another.
-/

namespace Omci

/-- Where the change of an attribute is notified, the attribute has one of the
numbers that allow it. -/
def ValueChange.InRange (change : ValueChange) : Prop :=
  change.avc = true → minAvcNumber ≤ change.number.toNat ∧
    change.number.toNat ≤ maxAvcNumber

namespace ValueChangeTable

theorem bounds_of_number? {lowest k : Nat} {n : Int} (h : number? lowest n = some k) :
    lowest ≤ k ∧ k ≤ maxAvcNumber := by
  unfold number? at h
  split at h
  · cases h
    omega
  · cases h

theorem inRange_of_entries? {number name : List Char} {description : String}
    {entries : List ValueChange} (h : entries? number name description = some entries)
    {change : ValueChange} (hchange : change ∈ entries) : change.InRange := by
  unfold entries? at h
  dsimp only at h
  split at h
  · obtain ⟨k, hk, rfl⟩ := Option.map_eq_some_iff.1 h
    obtain rfl := List.mem_singleton.1 hchange
    intro havc
    rw [Bool.not_eq_true'] at havc
    rw [havc, if_neg Bool.false_ne_true] at hk
    obtain ⟨hlow, hhigh⟩ := bounds_of_number? hk
    have hbyte : k < UInt8.size := Nat.lt_of_le_of_lt hhigh (by decide)
    show minAvcNumber ≤ (UInt8.ofNat k).toNat ∧ (UInt8.ofNat k).toNat ≤ maxAvcNumber
    rw [UInt8.toNat_ofNat_of_lt' hbyte]
    exact ⟨hlow, hhigh⟩
  · split at h
    · cases h
      cases hchange
    · simp only [Option.bind_eq_bind, Option.bind_eq_some_iff, Option.pure_def,
        Option.some.injEq] at h
      obtain ⟨_, _, _, _, _, _, rfl⟩ := h
      obtain ⟨_, _, rfl⟩ := List.mem_map.1 hchange
      exact fun havc => Bool.noConfusion havc

theorem inRange_of_rowEntries? {row : Row} {entries : List ValueChange}
    (h : rowEntries? row = some entries) {change : ValueChange}
    (hchange : change ∈ entries) :
    change.InRange := by
  unfold rowEntries? at h
  split at h
  · cases h
    cases hchange
  · split at h
    · exact inRange_of_entries? h hchange
    · cases h

theorem inRange_of_addRows? {table read : ValueChangeTable} {rows : List Row}
    (h : addRows? table rows = some read)
    (htable : ∀ change ∈ table.toList, change.InRange) :
    ∀ change ∈ read.toList, change.InRange := by
  induction rows generalizing table with
  | nil =>
    cases h
    exact htable
  | cons row rest ih =>
    rw [addRows?] at h
    split at h
    · cases h
    · next entries hentries =>
      refine ih h fun change hchange => ?_
      rcases Ascending.mem_of_mem_putAll hchange with hnew | hold
      · exact inRange_of_rowEntries? hentries hnew
      · exact htable change hold

theorem inRange_of_read? {t : Table} {table : ValueChangeTable} (h : read? t = some table) :
    ∀ change ∈ table.toList, change.InRange := by
  unfold read? at h
  split at h
  · cases h
  · exact inRange_of_addRows? h fun _ hchange => nomatch hchange

theorem notifies_iff {table : ValueChangeTable} {n : Nat} :
    table.notifies n = true ↔
      ∃ change ∈ table.toList, change.avc = true ∧ change.number.toNat = n := by
  unfold notifies
  rw [List.any_eq_true]
  simp only [Bool.and_eq_true, decide_eq_true_eq]

end ValueChangeTable

end Omci
