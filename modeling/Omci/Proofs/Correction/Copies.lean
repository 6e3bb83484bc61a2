import Mathlib.Data.List.Pairwise
import Mathlib.Logic.Relation
import Omci.Proofs.Correction.OneClass

/-!
# What a copy brings

A copy is made behind all corrections that do not copy, and brings what its source holds
at that moment. Each class is copied into at most once, so the moment is one of two:
either the source has been copied into already, or never is, and then the copy agrees
with what the source is at the end; or the source is copied into later in the list, and
the copy keeps what the corrections that do not copy had made of it. Copies are made in
the order of the list whichever way they lead, so a chain of them brings its far end to
its near end only if the list has it from there.
-/

namespace Omci

namespace Correction

/-- Corrections that copy do nothing else and demand nothing, no two corrections for one
class have the same label, and no class is copied into twice. -/
structure PlainCopies (corrections : List Correction) : Prop where
  plain : ∀ correction ∈ corrections, correction.copies = true →
    correction.requires = .any ∧ ∃ classId, correction.edits = [.copyFrom classId]
  labels : corrections.Pairwise fun correction other =>
    correction.classId = other.classId → correction.label ≠ other.label
  once : ((corrections.filter (·.copies)).map (·.classId)).Nodup

/-- A correction for the one class copies from the other. -/
def CopiesFrom (corrections : List Correction) (target source : ClassId) : Prop :=
  ∃ correction ∈ corrections, correction.classId = target ∧ source ∈ correction.sources

/-- No class is copied into itself, be it by way of others. -/
def Acyclic (corrections : List Correction) : Prop :=
  ∀ classId, ¬ Relation.TransGen (CopiesFrom corrections) classId classId

/-! ## Labels -/

/-- Edits leave the labels alone. -/
theorem corrections_edited (correction : Correction) (source : Option Entity)
    (entity : Entity) :
    (correction.edited source entity).corrections = entity.corrections := by
  unfold edited
  refine List.foldlRecOn
    (motive := fun changed : Entity => changed.corrections = entity.corrections)
    _ _ rfl fun changed hchanged edit _ => ?_
  exact (congrArg Entity.corrections (Edit.uncopied_make source changed edit)).trans
    hchanged

theorem has_label_of_make {correction : Correction} {source : Option Entity}
    {entity : Entity} {label : String}
    (h : (correction.make source entity).corrections.has label = true) :
    correction.label = label ∨ entity.corrections.has label = true := by
  cases hdue : correction.isDue entity with
  | false => rw [make_of_not_isDue hdue] at h; exact .inr h
  | true =>
    rw [make, make?_of_isDue hdue, Option.getD_some, corrections_edited, Ascending.has_put,
      Bool.or_eq_true] at h
    exact h.imp_left of_decide_eq_true

end Correction

namespace Catalog

open Correction

/-- A label is there because a correction for the class has left it. -/
theorem has_label_of_correctAll {catalog : Catalog} {corrections : List Correction}
    {classId : ClassId} {entity : Entity} {label : String}
    (hentity : (catalog.correctAll corrections).1.get? classId = some entity)
    (hlabel : entity.corrections.has label = true) :
    (∃ correction ∈ corrections, correction.classId = classId ∧ correction.label = label) ∨
      ∃ old ∈ catalog.get? classId, old.corrections.has label = true := by
  induction corrections generalizing catalog with
  | nil => exact .inr ⟨entity, hentity, hlabel⟩
  | cons correction rest ih =>
    rw [correctAll_cons] at hentity
    obtain ⟨other, hother, hleft⟩ | ⟨changed, hchanged, hhas⟩ := ih hentity
    · exact .inl ⟨other, List.mem_cons_of_mem _ hother, hleft⟩
    · rw [get?_correctOnce] at hchanged
      split at hchanged
      · next hclass =>
        obtain ⟨old, hold, rfl⟩ := Option.map_eq_some_iff.1 hchanged
        obtain hleft | hhad := has_label_of_make hhas
        · exact .inl ⟨correction, List.mem_cons_self, hclass, hleft⟩
        · exact .inr ⟨old, hold, hhad⟩
      · exact .inr ⟨changed, hchanged, hhas⟩

/-- A copy is due when its turn comes: nothing it demands, and nothing has left its label. -/
theorem isDue_of_plainCopies {catalog : Catalog} {corrections : List Correction}
    (hplain : PlainCopies corrections)
    (hfresh : catalog.All fun entity => entity.corrections = ∅) {copy : Correction}
    (hcopy : copy ∈ corrections.filter (·.copies)) {entity : Entity}
    (hentity : (catalog.correctAll (corrections.filter (!·.copies))).1.get? copy.classId =
      some entity) : copy.isDue entity = true := by
  obtain ⟨hmem, hcopies⟩ := List.mem_filter.1 hcopy
  have hunlabelled : entity.corrections.has copy.label = false := by
    refine Bool.eq_false_iff.2 fun hlabel => ?_
    obtain ⟨other, hother, hclass, hsame⟩ | ⟨old, hold, hhas⟩ :=
      has_label_of_correctAll hentity hlabel
    · have hlocal : other.copies = false := not_copies_of_mem_filter hother
      have hne : other ≠ copy := by
        rintro rfl
        exact absurd hcopies (by rw [hlocal]; decide)
      have hsymm : Std.Symm fun correction other : Correction =>
          correction.classId = other.classId → correction.label ≠ other.label :=
        ⟨fun _ _ h heq => (h heq.symm).symm⟩
      exact hplain.labels.forall (List.mem_filter.1 hother).1 hmem hne hclass hsame
    · rw [hfresh old (mem_of_get? hold)] at hhas
      cases hhas
  rw [isDue, hunlabelled, (hplain.plain copy hmem hcopies).1]
  rfl

/-- One copy in a run of copies, of which none is made into the same class again. -/
theorem exists_sharesContents_of_copies (catalog : Catalog)
    {before behind : List Correction} {copy : Correction} {sourceId : ClassId}
    (honce : (before ++ copy :: behind).Pairwise fun a b => a.classId ≠ b.classId)
    (hedits : copy.edits = [.copyFrom sourceId])
    (hdue : ∀ entity ∈ catalog.get? copy.classId, copy.isDue entity = true)
    (htarget : (catalog.get? copy.classId).isSome)
    (hsource : (catalog.get? sourceId).isSome) :
    ∃ target source,
      (catalog.correctAll (before ++ copy :: behind)).1.get? copy.classId = some target ∧
      (catalog.correctAll (before ++ copy :: behind)).1.get? sourceId = some source ∧
      ((∀ other ∈ behind, other.classId ≠ sourceId) → target.SharesContents source) ∧
      ((∃ other ∈ behind, other.classId = sourceId) →
        ∃ unresolved, catalog.get? sourceId = some unresolved ∧
          target.SharesContents unresolved) := by
  obtain ⟨-, hcopies, hbefore⟩ := List.pairwise_append.1 honce
  have hbehind : ∀ other ∈ behind, other.classId ≠ copy.classId :=
    fun other hother => ((List.pairwise_cons.1 hcopies).1 other hother).symm
  -- Neither the target nor a class that is copied into later has been copied into before.
  have huntouched : ∀ next ∈ copy :: behind,
      (catalog.correctAll before).1.get? next.classId = catalog.get? next.classId :=
    fun next hnext => get?_correctAll_of_forall_ne _ fun other hother =>
      hbefore other hother next hnext
  obtain ⟨entity, hentity⟩ := Option.isSome_iff_exists.1 htarget
  obtain ⟨held, hheld⟩ : ∃ held,
      (catalog.correctAll before).1.get? sourceId = some held := by
    rwa [← Option.isSome_iff_exists, isSome_get?_correctAll]
  rw [correctAll_append, correctAll_cons]
  generalize (catalog.correctAll before).1 = reached at huntouched hheld
  have hmade : (reached.correctOnce copy).1.get? copy.classId =
      some (copy.make (some held) entity) := by
    rw [get?_correctOnce, if_pos rfl, source?_of_copy hedits, hheld,
      huntouched copy List.mem_cons_self, hentity, Option.map_some]
  have hshares : (copy.make (some held) entity).SharesContents held :=
    sharesContents_of_copy hedits (hdue entity hentity) (some held)
  have hfinal :=
    (get?_correctAll_of_forall_ne (reached.correctOnce copy).1 hbehind).trans hmade
  obtain ⟨source, hfound⟩ :
      ∃ source, ((reached.correctOnce copy).1.correctAll behind).1.get? sourceId =
        some source := by
    rw [← Option.isSome_iff_exists, isSome_get?_correctAll, ← correctAll_singleton,
      isSome_get?_correctAll, hheld]
    rfl
  refine ⟨_, source, hfinal, hfound, fun hnone => ?kept, fun ⟨other, hother, hclass⟩ =>
    ?replaced⟩
  case kept =>
    rw [get?_correctAll_of_forall_ne _ hnone] at hfound
    by_cases hself : copy.classId = sourceId
    · -- a copy of the class itself
      rw [← hself, hmade] at hfound
      exact Option.some.inj hfound ▸ .refl _
    · rw [get?_correctOnce_of_ne _ hself, hheld] at hfound
      exact Option.some.inj hfound ▸ hshares
  case replaced =>
    refine ⟨held, ?_, hshares⟩
    rw [← hclass, ← huntouched other (List.mem_cons_of_mem _ hother), hclass, hheld]

/-- A copy brings what its source holds when it is made. If no copy into the source
comes behind it, that is what the source is in the end. If one does, it is what the
corrections that do not copy have made of the source. -/
theorem copies_bring_what_sources_hold (catalog : Catalog) (corrections : List Correction)
    (hplain : PlainCopies corrections)
    (hfresh : ∀ entity ∈ catalog.entities.toList, entity.corrections = ∅)
    (before behind : List Correction) (copy : Correction)
    (hsplit : corrections.filter (·.copies) = before ++ copy :: behind) (sourceId : ClassId)
    (hedits : copy.edits = [.copyFrom sourceId])
    (htarget : (catalog.get? copy.classId).isSome)
    (hsource : (catalog.get? sourceId).isSome) :
    ∃ target source, (catalog.correct corrections).1.get? copy.classId = some target ∧
      (catalog.correct corrections).1.get? sourceId = some source ∧
      ((∀ other ∈ behind, other.classId ≠ sourceId) → target.SharesContents source) ∧
      ((∃ other ∈ behind, other.classId = sourceId) →
        ∃ unresolved,
          (catalog.correctAll (corrections.filter (!·.copies))).1.get? sourceId =
            some unresolved ∧
          target.SharesContents unresolved) := by
  have honce := List.pairwise_map.1 (hsplit ▸ hplain.once)
  have hcopy : copy ∈ corrections.filter (·.copies) :=
    hsplit ▸ List.mem_append_right _ List.mem_cons_self
  rw [correct_fst, hsplit]
  exact exists_sharesContents_of_copies _ honce hedits
    (fun _ hentity => isDue_of_plainCopies hplain hfresh hcopy hentity)
    (by rwa [isSome_get?_correctAll]) (by rwa [isSome_get?_correctAll])

/-! ## A chain of copies -/

/-- Three classes, of which the section of one was printed with an action. -/
def threeClasses : Catalog where
  entities := Ascending.ofList [
    { classId := 321, name := "Downstream history data" },
    { classId := 322, name := "Upstream history data" },
    { classId := 334, name := "Extended history data", actions := Ascending.ofList [.get] }]

def copyBetween (target source : ClassId) : Correction where
  classId := target
  label := "copied"
  edits := [.copyFrom source]

theorem plainCopies_pair {a b c d : ClassId} (h : a ≠ c) :
    PlainCopies [copyBetween a b, copyBetween c d] where
  plain := List.forall_mem_cons.2
    ⟨fun _ => ⟨rfl, b, rfl⟩, List.forall_mem_singleton.2 fun _ => ⟨rfl, d, rfl⟩⟩
  labels := List.pairwise_pair.2 fun hsame => absurd hsame h
  once := List.pairwise_pair.2 h

/-- Copies that all come from greater class ids do not lead in a circle. -/
theorem acyclic_of_lt {corrections : List Correction}
    (h : ∀ correction ∈ corrections, ∀ source ∈ correction.sources,
      correction.classId < source) :
    Acyclic corrections := by
  have hstep : ∀ target source, CopiesFrom corrections target source → target < source := by
    rintro _ source ⟨correction, hcorrection, rfl, hsource⟩
    exact h correction hcorrection source hsource
  intro classId hcycle
  have hlt : ∀ source, Relation.TransGen (CopiesFrom corrections) classId source →
      classId < source := by
    intro source hpath
    induction hpath with
    | single hcopy => exact hstep _ _ hcopy
    | tail _ hcopy ih => exact UInt16.lt_trans ih (hstep _ _ hcopy)
  exact UInt16.lt_irrefl classId (hlt classId hcycle)

/-- The chain is copied from its far end, and the near end has what the far end had. -/
theorem copies_bring_what_sources_hold_sample :
    PlainCopies [copyBetween 322 334, copyBetween 321 322] ∧
    (∀ entity ∈ threeClasses.entities.toList, entity.corrections = ∅) ∧
    ∃ target source,
      (threeClasses.correct [copyBetween 322 334, copyBetween 321 322]).1.get? 321 =
        some target ∧
      (threeClasses.correct [copyBetween 322 334, copyBetween 321 322]).1.get? 322 =
        some source ∧
      target.SharesContents source ∧ source.actions = Ascending.ofList [.get] := by
  have hplain : PlainCopies [copyBetween 322 334, copyBetween 321 322] :=
    plainCopies_pair (by decide)
  have hfresh : ∀ entity ∈ threeClasses.entities.toList, entity.corrections = ∅ := by decide
  obtain ⟨target, source, htarget, hsource, hshares, -⟩ :=
    copies_bring_what_sources_hold threeClasses _ hplain hfresh [copyBetween 322 334] []
      (copyBetween 321 322) rfl 322 rfl (by decide) (by decide)
  refine ⟨hplain, hfresh, target, source, htarget, hsource, hshares (by simp), ?_⟩
  have hactions :
      ((threeClasses.correct [copyBetween 322 334, copyBetween 321 322]).1.get? 322).map
        (·.actions) = some (Ascending.ofList [.get]) := by decide +kernel
  rw [hsource] at hactions
  exact Option.some.inj hactions

/-- The chain is copied from its near end, which does not get what comes to its source
only then. -/
theorem copy_misses_what_comes_to_its_source :
    ¬ ∀ (catalog : Catalog) (corrections : List Correction), PlainCopies corrections →
      Acyclic corrections → (∀ entity ∈ catalog.entities.toList, entity.corrections = ∅) →
      ∀ copy ∈ corrections, ∀ sourceId, copy.edits = [.copyFrom sourceId] →
        ∀ target ∈ (catalog.correct corrections).1.get? copy.classId,
          ∀ source ∈ (catalog.correct corrections).1.get? sourceId,
            target.SharesContents source := by
  intro h
  have hacyclic : Acyclic [copyBetween 321 322, copyBetween 322 334] := by
    refine acyclic_of_lt ?_
    simp [copyBetween, sources]
  have hshares := h threeClasses _ (plainCopies_pair (by decide)) hacyclic (by decide)
    (copyBetween 321 322) List.mem_cons_self 322 rfl
  have hactions : ∃ target source,
      (threeClasses.correct [copyBetween 321 322, copyBetween 322 334]).1.get? 321 =
        some target ∧
      (threeClasses.correct [copyBetween 321 322, copyBetween 322 334]).1.get? 322 =
        some source ∧
      target.actions ≠ source.actions := by
    exact ⟨_, _, rfl, rfl, by decide +kernel⟩
  obtain ⟨target, source, htarget, hsource, hne⟩ := hactions
  exact hne (hshares target htarget source hsource).actions

end Catalog

end Omci
