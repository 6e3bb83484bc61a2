import Omci.Proofs.Correction.Step

/-!
# The order of corrections for different classes

A step writes one entity and reads that entity and the sources of its
correction. So two steps for different classes can change places, provided
that neither copies from the class of the other, and a run over corrections
none of which is a source of another depends on nothing but the order within
each class. The corrections that do not copy are such a list by themselves, and
those that copy are another, as long as no copy is made of a copy. The run over
the former comes first, wherever its corrections stand in the list, so that a
copy takes over what all of them have made of its source.
-/

namespace Omci

namespace Correction

/-- No correction copies from a class that one of them is for. -/
def Independent (corrections : List Correction) : Prop :=
  ∀ correction ∈ corrections, ∀ classId ∈ correction.sources, ∀ other ∈ corrections,
    other.classId ≠ classId

/-- No correction copies from a class that is itself corrected by copying. -/
def CopiesNoCopies (corrections : List Correction) : Prop :=
  ∀ correction ∈ corrections, ∀ classId ∈ correction.sources, ∀ other ∈ corrections,
    other.copies = true → other.classId ≠ classId

/-- For every class the lists have the same corrections in the same order. -/
def AgreeByClass (corrections others : List Correction) : Prop :=
  ∀ classId, corrections.filter (·.classId = classId) = others.filter (·.classId = classId)

theorem Independent.mono {corrections fewer : List Correction} (h : Independent corrections)
    (hfewer : ∀ correction ∈ fewer, correction ∈ corrections) : Independent fewer :=
  fun correction hcorrection classId hsource other hother =>
    h correction (hfewer correction hcorrection) classId hsource other (hfewer other hother)

theorem Independent.tail {correction : Correction} {rest : List Correction}
    (h : Independent (correction :: rest)) : Independent rest :=
  h.mono fun _ hother => List.mem_cons_of_mem _ hother

theorem independent_of_not_copies {corrections : List Correction}
    (h : ∀ correction ∈ corrections, correction.copies = false) :
    Independent corrections := by
  intro correction hcorrection classId hsource
  rw [sources_of_not_copies (h correction hcorrection)] at hsource
  cases hsource

namespace AgreeByClass

variable {corrections others : List Correction} (h : AgreeByClass corrections others)
include h

/-- Such lists are permutations of one another. -/
theorem perm : corrections.Perm others := by
  refine List.perm_iff_count.2 fun correction => ?_
  have hclass : ∀ list : List Correction,
      (list.filter (·.classId = correction.classId)).count correction =
        list.count correction :=
    fun _ => List.count_filter (decide_eq_true rfl)
  rw [← hclass corrections, h correction.classId, hclass]

theorem filter (test : Correction → Bool) :
    AgreeByClass (corrections.filter test) (others.filter test) := by
  intro classId
  have hcomm : ∀ list : List Correction, (list.filter test).filter (·.classId = classId) =
      (list.filter (·.classId = classId)).filter test := by
    intro list
    rw [List.filter_filter, List.filter_filter]
    exact List.filter_congr fun _ _ => Bool.and_comm _ _
  rw [hcomm, hcomm, h classId]

end AgreeByClass

theorem filter_cons_same (correction : Correction) (rest : List Correction) :
    (correction :: rest).filter (·.classId = correction.classId) =
      correction :: rest.filter (·.classId = correction.classId) :=
  List.filter_cons_of_pos (decide_eq_true rfl)

theorem filter_cons_other {correction : Correction} {classId : ClassId}
    (h : correction.classId ≠ classId) (rest : List Correction) :
    (correction :: rest).filter (·.classId = classId) = rest.filter (·.classId = classId) :=
  List.filter_cons_of_neg fun heq => h (of_decide_eq_true heq)

/-- The first correction of one list is in the other one behind corrections for
other classes. -/
theorem AgreeByClass.exists_split {correction : Correction} {rest others : List Correction}
    (h : AgreeByClass (correction :: rest) others) :
    ∃ before behind, others = before ++ correction :: behind ∧
      (∀ other ∈ before, other.classId ≠ correction.classId) ∧
      AgreeByClass rest (before ++ behind) := by
  have hclass := h correction.classId
  rw [filter_cons_same] at hclass
  obtain ⟨before, behind, rfl, hbefore, _, hbehind⟩ := List.filter_eq_cons_iff.1 hclass.symm
  refine ⟨before, behind, rfl,
    fun other hother heq => hbefore other hother (decide_eq_true heq), fun classId => ?_⟩
  rw [List.filter_append]
  by_cases hsame : correction.classId = classId
  · subst hsame
    rw [List.filter_eq_nil_iff.2 hbefore, List.nil_append, hbehind]
  · have hrest := h classId
    rwa [List.filter_append, filter_cons_other hsame, filter_cons_other hsame] at hrest

end Correction

namespace Catalog

open Correction

/-! ## Changing places -/

theorem source?_correctOnce {correction other : Correction} (catalog : Catalog)
    (h : ∀ classId ∈ other.sources, correction.classId ≠ classId) :
    other.source? (catalog.correctOnce correction).1 = other.source? catalog :=
  source?_congr fun classId hsource => catalog.get?_correctOnce_of_ne (h classId hsource)

theorem correctAll_swap (catalog : Catalog) {first second : Correction}
    (hne : first.classId ≠ second.classId)
    (hfirst : ∀ classId ∈ first.sources, second.classId ≠ classId)
    (hsecond : ∀ classId ∈ second.sources, first.classId ≠ classId)
    (rest : List Correction) :
    catalog.correctAll (first :: second :: rest) =
      catalog.correctAll (second :: first :: rest) := by
  have hsource₁ := catalog.source?_correctOnce hfirst
  have hsource₂ := catalog.source?_correctOnce hsecond
  have hget₁ := catalog.get?_correctOnce_of_ne hne.symm
  have hget₂ := catalog.get?_correctOnce_of_ne hne
  have hcatalog : ((catalog.correctOnce first).1.correctOnce second).1 =
      ((catalog.correctOnce second).1.correctOnce first).1 := by
    rw [correctOnce_eq, correctOnce_eq (catalog.correctOnce second).1, hsource₁, hsource₂]
    rw [correctOnce_eq, correctOnce_eq]
    exact congrArg (Catalog.mk catalog.versions) (Ascending.adjust_comm _ hne _ _)
  have hmade₁ : ((catalog.correctOnce second).1.correctOnce first).2 =
      (catalog.correctOnce first).2 := by
    rw [correctOnce_eq, correctOnce_eq catalog first, hget₁]
  have hmade₂ : ((catalog.correctOnce first).1.correctOnce second).2 =
      (catalog.correctOnce second).2 := by
    rw [correctOnce_eq, correctOnce_eq catalog second, hget₂]
  simp only [correctAll_cons]
  rw [hcatalog, hmade₁, hmade₂]
  exact Prod.ext rfl (Nat.add_right_comm _ _ _)

/-- A correction can be made first where all those in front of it are for other
classes. -/
theorem correctAll_append_cons (catalog : Catalog) {correction : Correction}
    {before : List Correction} (behind : List Correction)
    (hindependent : Independent (correction :: before))
    (hne : ∀ other ∈ before, other.classId ≠ correction.classId) :
    catalog.correctAll (before ++ correction :: behind) =
      catalog.correctAll (correction :: (before ++ behind)) := by
  induction before generalizing catalog with
  | nil => rfl
  | cons other rest ih =>
    have hrest : Independent (correction :: rest) := hindependent.mono fun c hc => by
      rcases List.mem_cons.1 hc with rfl | hc
      · exact List.mem_cons_self
      · exact List.mem_cons_of_mem _ (List.mem_cons_of_mem _ hc)
    have hother : other ∈ correction :: other :: rest :=
      List.mem_cons_of_mem _ List.mem_cons_self
    have hswap := catalog.correctAll_swap (hne other List.mem_cons_self)
      (fun classId hsource =>
        hindependent other hother classId hsource _ List.mem_cons_self)
      (fun classId hsource =>
        hindependent correction List.mem_cons_self classId hsource _ hother)
        (rest ++ behind)
    rw [List.cons_append, List.cons_append, ← hswap, correctAll_cons, correctAll_cons,
      ih _ hrest fun next hnext => hne next (List.mem_cons_of_mem _ hnext)]

/-- Of independent corrections only the order within each class counts. -/
theorem correctAll_eq_of_agreeByClass (catalog : Catalog)
    {corrections others : List Correction} (hindependent : Independent corrections)
    (h : AgreeByClass corrections others) :
    catalog.correctAll corrections = catalog.correctAll others := by
  induction corrections generalizing catalog others with
  | nil => rw [List.nil_perm.1 h.perm]
  | cons correction rest ih =>
    obtain ⟨before, behind, rfl, hne, hrest⟩ := h.exists_split
    have hbefore : Independent (correction :: before) := hindependent.mono fun c hc => by
      refine h.perm.mem_iff.2 ?_
      rcases List.mem_cons.1 hc with rfl | hc
      · exact List.mem_append_right _ List.mem_cons_self
      · exact List.mem_append_left _ hc
    rw [correctAll_append_cons catalog behind hbefore hne, correctAll_cons, correctAll_cons,
      ih _ hindependent.tail hrest]

/-! ## What a run makes of an entity -/

/-- The corrections of its class are made one after the other, each with the
source that was there from the beginning. -/
theorem get?_correctAll (catalog : Catalog) {corrections : List Correction}
    (hindependent : Independent corrections) (source : Correction → Option Entity)
    (hsource : ∀ correction ∈ corrections, correction.source? catalog = source correction)
    (classId : ClassId) :
    (catalog.correctAll corrections).1.get? classId =
      (catalog.get? classId).map fun entity =>
        (corrections.filter (·.classId = classId)).foldl
          (fun entity correction => correction.make (source correction) entity) entity := by
  induction corrections generalizing catalog with
  | nil => exact Option.map_id'.symm
  | cons correction rest ih =>
    have hlater : ∀ other ∈ rest,
        other.source? (catalog.correctOnce correction).1 = source other := by
      intro other hother
      have hother' := List.mem_cons_of_mem correction hother
      rw [catalog.source?_correctOnce fun classId hclass =>
        hindependent other hother' classId hclass correction List.mem_cons_self]
      exact hsource other hother'
    rw [correctAll_cons, ih _ hindependent.tail hlater, get?_correctOnce]
    split
    · next hsame =>
      subst hsame
      rw [Option.map_map, filter_cons_same, hsource correction List.mem_cons_self]
      rfl
    · next hother => rw [filter_cons_other hother]

/-! ## Both runs -/

theorem independent_filter_copies {corrections : List Correction}
    (h : CopiesNoCopies corrections) : Independent (corrections.filter (·.copies)) := by
  intro correction hcorrection classId hsource other hother
  obtain ⟨hother, hcopies⟩ := List.mem_filter.1 hother
  exact h correction (List.mem_filter.1 hcorrection).1 classId hsource other hother hcopies

theorem not_copies_of_mem_filter {corrections : List Correction} {correction : Correction}
    (h : correction ∈ corrections.filter (!·.copies)) : correction.copies = false :=
  Bool.not_eq_true' _ ▸ (List.mem_filter.1 h).2

theorem correct_fst (catalog : Catalog) (corrections : List Correction) :
    (catalog.correct corrections).1 =
      ((catalog.correctAll (corrections.filter (!·.copies))).1.correctAll
        (corrections.filter (·.copies))).1 := by
  rw [correct, correctAll_append]

/-- What is copied from is not changed by copying, so it is found at the end as
it was taken over. -/
theorem source?_correct (catalog : Catalog) {corrections : List Correction}
    (h : CopiesNoCopies corrections) {correction : Correction}
    (hcorrection : correction ∈ corrections.filter (·.copies)) :
    correction.source? (catalog.correctAll (corrections.filter (!·.copies))).1 =
      correction.source? (catalog.correct corrections).1 := by
  refine source?_congr fun classId hsource => ?_
  rw [correct_fst]
  exact (get?_correctAll_of_forall_ne _
    (independent_filter_copies h correction hcorrection classId hsource)).symm

/-- Lists that agree by class make the same catalog and count the same number
of corrections, where no copy is made of a copy. For each class the corrections
that do not copy are made in their order, and then those that copy, from what
their sources have become. -/
theorem order_counts_within_a_class (catalog : Catalog)
    (corrections others : List Correction) (hcopies : CopiesNoCopies corrections)
    (h : AgreeByClass corrections others) :
    catalog.correct corrections = catalog.correct others ∧
    ∀ classId, (catalog.correct corrections).1.get? classId =
      (catalog.get? classId).map fun entity =>
        ((corrections.filter (·.copies)).filter (·.classId = classId)).foldl
          (fun entity correction =>
            correction.make (correction.source? (catalog.correct corrections).1) entity)
          (((corrections.filter (!·.copies)).filter (·.classId = classId)).foldl
            (fun entity correction => correction.make none entity) entity) := by
  have hlocal : Independent (corrections.filter (!·.copies)) :=
    independent_of_not_copies fun _ hcorrection => not_copies_of_mem_filter hcorrection
  have hcopying := independent_filter_copies hcopies
  refine ⟨?_, fun classId => ?_⟩
  · rw [correct, correct, correctAll_append, correctAll_append,
      correctAll_eq_of_agreeByClass catalog hlocal (h.filter _),
      correctAll_eq_of_agreeByClass _ hcopying (h.filter _)]
  · have hnone : ∀ correction ∈ corrections.filter (!·.copies),
        correction.source? catalog = none := by
      intro correction hcorrection
      rw [source?_eq, sources_of_not_copies (not_copies_of_mem_filter hcorrection)]
      rfl
    have hbefore := catalog.get?_correctAll hlocal (fun _ => none) hnone classId
    have hbehind := get?_correctAll _ hcopying
      (fun correction => correction.source? (catalog.correct corrections).1)
      (fun correction hcorrection => catalog.source?_correct hcopies hcorrection) classId
    rw [hbefore, Option.map_map] at hbehind
    exact (congrArg (·.get? classId) (catalog.correct_fst corrections)).trans hbehind

/-- Two directions of traffic, of which one was printed without its actions. -/
def twoDirections : Catalog where
  entities := Ascending.ofList [
    { classId := 321, name := "Downstream history data" },
    { classId := 322, name := "Upstream history data", actions := Ascending.ofList [.get] }]

def downstreamCopy : Correction where
  classId := 321
  label := "downstream-copies-upstream"
  edits := [.copyFrom 322]

def upstreamAction : Correction where
  classId := 322
  label := "current-data"
  edits := [.addAction .getCurrentData]

theorem order_counts_within_a_class_sample :
    CopiesNoCopies [downstreamCopy, upstreamAction] ∧
    AgreeByClass [downstreamCopy, upstreamAction] [upstreamAction, downstreamCopy] ∧
    twoDirections.correct [downstreamCopy, upstreamAction] =
      twoDirections.correct [upstreamAction, downstreamCopy] ∧
    ((twoDirections.correct [downstreamCopy, upstreamAction]).1.get? 321).map
      (·.actions.toList) = some [.get, .getCurrentData] := by
  have hsources : ∀ correction ∈ [downstreamCopy, upstreamAction],
      ∀ other ∈ [downstreamCopy, upstreamAction],
        other.copies = true → other.classId ∉ correction.sources := by decide
  have hcopies : CopiesNoCopies [downstreamCopy, upstreamAction] :=
    fun correction hcorrection _ hsource other hother hcopying heq =>
      hsources correction hcorrection other hother hcopying (heq ▸ hsource)
  have hagree : AgreeByClass [downstreamCopy, upstreamAction]
      [upstreamAction, downstreamCopy] := by
    intro classId
    by_cases hcopy : downstreamCopy.classId = classId
    · subst hcopy
      decide
    · rw [filter_cons_other hcopy]
      by_cases haction : upstreamAction.classId = classId
      · subst haction
        decide
      · rw [filter_cons_other haction, filter_cons_other haction, filter_cons_other hcopy]
  exact ⟨hcopies, hagree, (order_counts_within_a_class twoDirections _ _ hcopies hagree).1,
    by decide +kernel⟩

end Catalog

end Omci
