import Mathlib.Data.List.Dedup
import Omci.Correction.Known
import Omci.Proofs.Correction.Places
import Omci.Proofs.Correction.Targets

/-!
# How many attributes a correction needs

An edit finds the attribute that it names if the list is long enough when its turn
comes, and the edits before it have made the list longer or shorter by then. What a list
of edits needs is therefore worked out from its end: `Edit.before?` is the least number
of attributes with which an edit finds what it names and leaves as many as those behind
it need, and `Edit.demand?` takes that back to the first. A list that keeps certain
places leaves a fixed number, so there may be edits that no number is enough for.

The known corrections that demand a number of attributes demand the least that is
enough, all but one. That one takes an attribute out first and names the ninth of those
that are left, for which nine to begin with are too few.
-/

namespace Omci

namespace Edit

/-- What the edit names, if anything, is the place of an attribute. -/
def byPlace : Edit → Bool
  | renameAlarm _ _ | copyFrom _ => false
  | _ => true

theorem copies_of_byPlace {edit : Edit} (h : edit.byPlace = true) :
    edit.copies = false := by
  cases edit with
  | copyFrom => cases h
  | _ => rfl

/-! ## The number of attributes behind an edit -/

/-- How many of `count` attributes there are behind the edit. -/
def sizeBehind (count : Nat) : Edit → Nat
  | splitAttribute i _ _ => if i < count then count + 1 else count
  | repeatParts i parts _ => if i < count then count + (parts - 1) else count
  | removeAttribute i => if i < count then count - 1 else count
  | retainAttributes places => if places.all (· < count) then places.dedup.length else count
  | prependAttribute _ _ _ _ => count + 1
  | _ => count

/-- Each place that is kept keeps one item, however often it is named. -/
theorem length_retained {α : Type} {items : List α} {places : List Nat}
    (h : ∀ place ∈ places, place < items.length) :
    (items.zipIdx.filter fun entry => places.contains entry.2).length =
      places.dedup.length := by
  have hkept : (items.zipIdx.filter fun entry => places.contains entry.2).map Prod.snd =
      (List.range items.length).filter places.contains := by
    rw [List.range_eq_range', ← List.zipIdx_map_snd 0 items, List.filter_map]
    rfl
  have hplaces : ((List.range items.length).filter places.contains).Perm places.dedup := by
    refine (List.perm_ext_iff_of_nodup (List.nodup_range.filter _)
      (List.nodup_dedup _)).2 fun i => ?_
    rw [List.mem_filter, List.mem_dedup, List.contains_iff_mem, List.mem_range]
    exact and_iff_right_of_imp (h i)
  rw [← hplaces.length_eq, ← hkept, List.length_map]

theorem length_rearranged {α : Type} (new : α) (edit : Edit) (items : List α) :
    (edit.rearranged new items).length = edit.sizeBehind items.length := by
  cases edit with
  | splitAttribute i | repeatParts i =>
    simp only [rearranged, sizeBehind]
    by_cases hi : i < items.length
    · rw [List.getElem?_eq_getElem hi, if_pos hi]
      simp [List.length_insertIdx, Nat.succ_le_of_lt hi]
    · rw [List.getElem?_eq_none (Nat.not_lt.1 hi), if_neg hi]
  | removeAttribute i => exact List.length_eraseIdx ..
  | retainAttributes places =>
    simp only [rearranged, sizeBehind]
    split
    · next hall =>
      rw [List.length_map]
      exact length_retained fun place hplace =>
        of_decide_eq_true (List.all_eq_true.1 hall place hplace)
    · rfl
  | _ => rfl

theorem size_make {edit : Edit} (hcopies : edit.copies = false) (source : Option Entity)
    (entity : Entity) :
    (make source entity edit).attributes.size = edit.sizeBehind entity.attributes.size := by
  have hlength := (forall₂_yields_make hcopies source entity).length_eq
  rw [length_rearranged, List.length_map] at hlength
  exact hlength.symm

/-! ## The number of attributes in front of it -/

/-- The least number of attributes for which all the places exist. -/
def covering (places : List Nat) : Nat :=
  places.foldr (fun place least => max (place + 1) least) 0

theorem covering_le_iff {places : List Nat} {count : Nat} :
    covering places ≤ count ↔ places.all (· < count) = true := by
  induction places with
  | nil => simp [covering]
  | cons place rest ih =>
    have hstep : covering (place :: rest) = max (place + 1) (covering rest) := rfl
    rw [hstep, Nat.max_le, ih, List.all_cons, Bool.and_eq_true, decide_eq_true_eq,
      Nat.succ_le_iff]

/-- The least number of attributes with which the edit finds what it names and leaves at
least `count`; `none` if it cannot leave so many. -/
def before? (count : Nat) : Edit → Option Nat
  | setSize i _ | setOctets i _ | requireGetNext i | addAccess i _
  | setOptional i _ | setType i _ | renameAttribute i _ => some (max (i + 1) count)
  | copySize i j => some (max (max (i + 1) (j + 1)) count)
  | splitAttribute i _ _ => some (max (i + 1) (count - 1))
  | repeatParts i parts _ => some (max (i + 1) (count - (parts - 1)))
  | removeAttribute i => some (max (i + 1) (count + 1))
  | retainAttributes places =>
    if count ≤ places.dedup.length then some (covering places) else none
  | prependAttribute _ _ _ _ => some (count - 1)
  | _ => some count

/-- The number is enough, and it is the least that is. -/
theorem exists_before?_le_iff {edit : Edit} (hplace : edit.byPlace = true) (count : Nat)
    (source : Option Entity) (entity : Entity) :
    (∃ least ∈ edit.before? count, least ≤ entity.attributes.size) ↔
      edit.hasTarget entity source = true ∧
      count ≤ edit.sizeBehind entity.attributes.size := by
  generalize hsize : entity.attributes.size = size
  cases edit with
  | renameAlarm | copyFrom => cases hplace
  | setClassAccess | addAction | removeAction | appendToName =>
    simp [before?, hasTarget, sizeBehind]
  | setSize | setOctets | requireGetNext | addAccess | setOptional | setType
  | renameAttribute
  | copySize =>
    simp only [before?, hasTarget, sizeBehind, hsize, Option.mem_def, Option.some.injEq,
      exists_eq_left', decide_eq_true_eq, Bool.and_eq_true]
    omega
  | splitAttribute i | repeatParts i | removeAttribute i =>
    simp only [before?, hasTarget, sizeBehind, hsize, Option.mem_def, Option.some.injEq,
      exists_eq_left', decide_eq_true_eq]
    split <;> omega
  | retainAttributes places =>
    simp only [before?, hasTarget, sizeBehind, hsize, Option.mem_def]
    by_cases hall : places.all (· < size) = true
    · have hcovering := covering_le_iff.2 hall
      by_cases hcount : count ≤ places.dedup.length <;> simp [hall, hcount, hcovering]
    · have hcovering : ¬ covering places ≤ size := fun h => hall (covering_le_iff.1 h)
      by_cases hcount : count ≤ places.dedup.length <;> simp [hall, hcount, hcovering]
  | prependAttribute =>
    simp [before?, hasTarget, sizeBehind]

/-- The least number of attributes with which every edit finds what it names; `none` if
no number is enough. -/
def demand? : List Edit → Option Nat
  | [] => some 0
  | edit :: rest => (demand? rest).bind fun count => edit.before? count

/-- Each edit can be made when its turn comes. -/
def AllFound (source : Option Entity) (entity : Entity) (edits : List Edit) : Prop :=
  ∀ before edit behind, edits = before ++ edit :: behind →
    (edit.make? (before.foldl (make source) entity) source).isSome

theorem allFound_cons {source : Option Entity} {entity : Entity} {edit : Edit}
    {rest : List Edit} :
    AllFound source entity (edit :: rest) ↔
      edit.hasTarget entity source = true ∧
      AllFound source (make source entity edit) rest := by
  rw [← isSome_make?]
  constructor
  · intro h
    exact ⟨h [] edit rest rfl, fun before other behind hrest =>
      h (edit :: before) other behind (congrArg (edit :: ·) hrest)⟩
  · rintro ⟨hfirst, hrest⟩ before other behind hsplit
    cases before with
    | nil =>
      obtain ⟨rfl, -⟩ := List.cons.inj hsplit
      exact hfirst
    | cons first before =>
      obtain ⟨rfl, hsame⟩ := List.cons.inj hsplit
      exact hrest before other behind hsame

/-- Edits of attributes by their places all find what they name exactly if there are as
many attributes as they demand. -/
theorem allFound_iff {edits : List Edit} (hplaces : ∀ edit ∈ edits, edit.byPlace = true)
    (source : Option Entity) (entity : Entity) :
    AllFound source entity edits ↔
      ∃ least ∈ demand? edits, least ≤ entity.attributes.size := by
  induction edits generalizing entity with
  | nil =>
    refine iff_of_true (fun before edit behind hsplit => ?_) ⟨0, rfl, Nat.zero_le _⟩
    exact absurd (congrArg List.length hsplit) (by simp)
  | cons edit rest ih =>
    have hplace := hplaces edit List.mem_cons_self
    have hbehind := size_make (copies_of_byPlace hplace) source entity
    -- The edits behind have what they need if the first leaves as many attributes as they
    -- demand.
    rw [allFound_cons,
      ih fun other hother => hplaces other (List.mem_cons_of_mem _ hother),
      hbehind, demand?]
    cases demand? rest with
    | none => simp
    | some count =>
      rw [Option.bind_some, exists_before?_le_iff hplace count source]
      simp

end Edit

/-- The least number of attributes that is admitted. -/
def Requirement.least : Requirement → Nat
  | any => 0
  | exactly count | atLeast count => count

theorem Requirement.least_le {requires : Requirement} {count : Nat}
    (h : requires.admits count = true) : requires.least ≤ count := by
  cases requires with
  | any => exact Nat.zero_le count
  | exactly n => exact Nat.le_of_eq (of_decide_eq_true h).symm
  | atLeast n => exact of_decide_eq_true h

namespace Correction

/-- What the known corrections demand is what their edits need, but in one case it is
one too few. -/
theorem demand?_known :
    ∀ correction ∈ known, correction.requires ≠ .any → correction.copies = false →
      correction.edits.all (·.byPlace) = true ∧
      (correction.classId = 441 → correction.requires = .atLeast 9) ∧
      Edit.demand? correction.edits =
        some (if correction.classId = 441 then 10 else correction.requires.least) := by
  decide

/-- A known correction that demands a number of attributes and does not copy finds, in
every entity that meets the demand, all that its edits name, each when its turn comes.
The exception is the one for class 441, which demands nine and needs ten. -/
theorem known_edits_find_their_attributes (correction : Correction)
    (hknown : correction ∈ known) (hrequires : correction.requires ≠ .any)
    (hcopies : correction.copies = false) (entity : Entity)
    (hadmits : correction.requires.admits entity.attributes.size = true)
    (source : Option Entity) :
    (∀ before edit behind, correction.edits = before ++ edit :: behind →
      (edit.make? (before.foldl (Edit.make source) entity) source).isSome) ↔
      ¬ (correction.classId = 441 ∧ entity.attributes.size = 9) := by
  obtain ⟨hplaces, hnine, hdemand⟩ := demand?_known correction hknown hrequires hcopies
  have hfound : Edit.AllFound source entity correction.edits ↔
      (if correction.classId = 441 then 10 else correction.requires.least) ≤
        entity.attributes.size := by
    rw [Edit.allFound_iff (List.all_eq_true.1 hplaces), hdemand]
    exact ⟨fun ⟨_, heq, hle⟩ => Option.some.inj heq ▸ hle, fun hle => ⟨_, rfl, hle⟩⟩
  refine hfound.trans ?_
  by_cases hclass : correction.classId = 441
  · rw [hnine hclass] at hadmits
    have hleast : 9 ≤ entity.attributes.size := of_decide_eq_true hadmits
    rw [if_pos hclass, and_iff_right hclass]
    omega
  · refine iff_of_true ?_ fun h => hclass h.1
    rw [if_neg hclass]
    exact Requirement.least_le hadmits

/-- An entity of class 441 with that many attributes. -/
def withAttributes (count : Nat) : Entity where
  classId := 441
  name := "ONU3-G"
  attributes := .ofList (List.replicate count { name := "Status" })

/-- With ten attributes every edit of the exception finds what it names. -/
theorem known_edits_find_their_attributes_sample :
    ∃ correction ∈ known, correction.classId = 441 ∧ correction.requires ≠ .any ∧
      correction.copies = false ∧
      correction.requires.admits (withAttributes 10).attributes.size = true ∧
      ∀ before edit behind, correction.edits = before ++ edit :: behind →
        (edit.make? (before.foldl (Edit.make none) (withAttributes 10)) none).isSome := by
  obtain ⟨correction, hknown, hclass, hrequires, hcopies, hadmits⟩ : ∃ correction ∈ known,
      correction.classId = 441 ∧ correction.requires ≠ .any ∧ correction.copies = false ∧
      correction.requires.admits (withAttributes 10).attributes.size = true := by decide
  refine ⟨correction, hknown, hclass, hrequires, hcopies, hadmits, ?_⟩
  exact (known_edits_find_their_attributes correction hknown hrequires hcopies _
    hadmits none).2
    fun h => absurd h.2 (by decide)

/-- With nine attributes, of which one is taken out, the ninth is named in vain. -/
theorem nine_attributes_are_too_few :
    ¬ ∀ correction ∈ known, correction.requires ≠ .any → correction.copies = false →
      ∀ entity : Entity, correction.requires.admits entity.attributes.size = true →
      ∀ source before edit behind, correction.edits = before ++ edit :: behind →
        (edit.make? (before.foldl (Edit.make source) entity) source).isSome := by
  intro h
  obtain ⟨correction, hknown, hedits, hrequires, hcopies, hadmits⟩ : ∃ correction ∈ known,
      correction.edits = [.removeAttribute 3, .setSize 2 (.ofOctets 1),
      .setOptional 2 false,
        .addAccess 2 [.read]] ++ .setOctets 8 25 :: [.copySize 8 6] ∧
      correction.requires ≠ .any ∧ correction.copies = false ∧
      correction.requires.admits (withAttributes 9).attributes.size = true := by decide
  have hfound := h correction hknown hrequires hcopies _ hadmits none _ _ _ hedits
  exact absurd hfound (by decide)

end Correction

end Omci
