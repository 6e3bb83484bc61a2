import Omci.Proofs.AttributeList
import Omci.Proofs.Correction.OneClass

/-!
# What corrections do to the identifier

The first attribute identifies the entity. An edit spares it if what the edit
renames, retypes, splits or takes out stands further behind. The known
corrections spare it with two exceptions: one puts an identifier in front of
the attributes of its class, and the one that copies brings that of another
class. So an identifier that has been corrected has the name and the type that
were read for it, or it is the one that was put in front.
-/

namespace Omci

/-- Name and type of the attribute that identifies the entity. -/
def Entity.identifier? (entity : Entity) : Option (String × AttributeType) :=
  (entity.attributes.get? 0).map fun a => (a.name, a.type)

namespace Edit

/-- The edit leaves the name and the type of the first attribute alone. -/
def sparesIdentifier : Edit → Bool
  | prependAttribute _ _ _ _ | copyFrom _ => false
  | setType i _ | renameAttribute i _ | splitAttribute i _ _ | repeatParts i _ _
  | removeAttribute i => 0 < i
  | retainAttributes places => places.contains 0
  | _ => true

theorem identifier?_onAttribute? {entity changed : Entity} {i : Nat}
    {f : Attribute → Attribute}
    (hf : i = 0 → ∀ a, (f a).name = a.name ∧ (f a).type = a.type)
    (h : onAttribute? entity i f = some changed) :
    changed.identifier? = entity.identifier? := by
  unfold onAttribute? at h
  split at h
  · cases h
    rw [Entity.identifier?, AttributeList.get?_modify, Entity.identifier?]
    split
    · next hfirst =>
      rw [Option.map_map]
      refine Option.map_congr fun a _ => ?_
      rw [Function.comp_apply, (hf hfirst a).1, (hf hfirst a).2]
    · rfl
  · cases h

theorem identifier?_make? {edit : Edit} {entity changed : Entity} {source : Option Entity}
    (hspares : edit.sparesIdentifier = true) (h : edit.make? entity source = some changed) :
    changed.identifier? = entity.identifier? := by
  cases edit with
  | setClassAccess | addAction | removeAction =>
    cases h
    rfl
  | renameAlarm =>
    simp only [make?] at h
    split at h
    · cases h
    · split at h
      · cases h
        rfl
      · cases h
  | appendToName =>
    simp only [make?] at h
    split at h <;>
    · cases h
      rfl
  | setSize | setOctets | requireGetNext | addAccess | setOptional =>
    refine identifier?_onAttribute? ?_ h
    exact fun _ _ => ⟨rfl, rfl⟩
  | copySize =>
    obtain ⟨_, _, h⟩ := Option.bind_eq_some_iff.1 h
    refine identifier?_onAttribute? ?_ h
    exact fun _ _ => ⟨rfl, rfl⟩
  | setType i | renameAttribute i =>
    refine identifier?_onAttribute? (fun hfirst => ?_) h
    exact absurd hfirst (Nat.ne_of_gt (of_decide_eq_true hspares))
  | splitAttribute i first second =>
    obtain ⟨a, ha, rfl⟩ := Option.map_eq_some_iff.1 h
    have hi : 0 < i := of_decide_eq_true hspares
    have hsize : 0 < entity.attributes.size :=
      Nat.lt_of_le_of_lt (Nat.zero_le i) (List.getElem?_eq_some_iff.1 ha).1
    rw [Entity.identifier?, AttributeList.get?_modify, if_neg (Nat.succ_ne_zero i),
      AttributeList.get?_modify, if_neg (Nat.ne_of_gt hi),
      AttributeList.get?_insert (Nat.succ_pos i) hsize, Option.map_map]
    rfl
  | repeatParts i =>
    obtain ⟨a, ha, rfl⟩ := Option.map_eq_some_iff.1 h
    have hi : 0 < i := of_decide_eq_true hspares
    have hsize : 0 < entity.attributes.size :=
      Nat.lt_of_le_of_lt (Nat.zero_le i) (List.getElem?_eq_some_iff.1 ha).1
    rw [Entity.identifier?, AttributeList.get?_foldl_push (by simpa using hsize),
      AttributeList.get?_modify, if_neg (Nat.ne_of_gt hi), Entity.identifier?]
  | removeAttribute i =>
    obtain ⟨⟨a, rest⟩, hrest, rfl⟩ := Option.map_eq_some_iff.1 h
    rw [Entity.identifier?, AttributeList.get?_of_remove? (of_decide_eq_true hspares) hrest,
      Option.map_map]
    rfl
  | retainAttributes places =>
    simp only [make?] at h
    split at h
    · cases h
      rw [Entity.identifier?, AttributeList.get?_keep_zero _ hspares, Option.map_map]
      rfl
    · cases h
  | prependAttribute | copyFrom => cases hspares

theorem identifier?_make {edit : Edit} (hspares : edit.sparesIdentifier = true)
    (source : Option Entity) (entity : Entity) :
    (edit.make source entity).identifier? = entity.identifier? := by
  unfold make
  cases h : edit.make? entity source with
  | none => rfl
  | some changed => exact identifier?_make? hspares h

theorem identifier?_foldl_make {edits : List Edit}
    (hspares : ∀ edit ∈ edits, edit.sparesIdentifier = true) (source : Option Entity)
    (entity : Entity) :
    (edits.foldl (make source) entity).identifier? = entity.identifier? := by
  induction edits generalizing entity with
  | nil => rfl
  | cons edit rest ih =>
    rw [List.foldl_cons,
      ih fun other hother => hspares other (List.mem_cons_of_mem _ hother),
      identifier?_make (hspares edit List.mem_cons_self)]

theorem identifier?_prepend (source : Option Entity) (entity : Entity) (name : String)
    (access : List Access) (octets : Int32) (type : AttributeType) :
    (make source entity (.prependAttribute name access octets type)).identifier? =
      some (name, type) := by
  show (AttributeList.get? (.insert entity.attributes 0 _) 0).map _ = _
  rw [AttributeList.insert, AttributeList.get?_renumber, Nat.zero_min, List.insertIdx_zero]
  rfl

end Edit

/-! ## Corrections -/

namespace Correction

/-- The identifier that one of the known corrections puts in front. -/
def missingIdentifier : String × AttributeType := ("Managed Entity Id", .pointer)

/-- The correction spares the identifier, or puts the missing one in front. -/
def IdentifierKept (correction : Correction) : Prop :=
  (∀ edit ∈ correction.edits, edit.sparesIdentifier = true) ∨
    ∃ access octets, correction.edits =
      [.prependAttribute missingIdentifier.1 access octets missingIdentifier.2]

theorem identifier?_of_isDue {correction : Correction} {entity : Entity}
    (hdue : correction.isDue entity = true) (source : Option Entity) :
    (correction.make source entity).identifier? =
      (correction.edits.foldl (Edit.make source) entity).identifier? := by
  rw [make, make?_of_isDue hdue, Option.getD_some]
  rfl

theorem identifier?_make {correction : Correction} (h : correction.IdentifierKept)
    (source : Option Entity) (entity : Entity) :
    (correction.make source entity).identifier? = entity.identifier? ∨
      (correction.make source entity).identifier? = some missingIdentifier := by
  cases hdue : correction.isDue entity with
  | false => exact .inl (by rw [make_of_not_isDue hdue])
  | true =>
    rw [identifier?_of_isDue hdue]
    rcases h with hspares | ⟨access, octets, hedits⟩
    · exact .inl (Edit.identifier?_foldl_make hspares source entity)
    · rw [hedits]
      exact .inr (Edit.identifier?_prepend source entity _ _ _ _)

/-- The known corrections that do not copy. -/
theorem identifierKept_known : ∀ correction ∈ knownLocal, correction.IdentifierKept := by
  have hknown : ∀ correction ∈ knownLocal,
      (∀ edit ∈ correction.edits, edit.sparesIdentifier = true) ∨ correction.edits =
        [.prependAttribute missingIdentifier.1 [.read,
        .setByCreate] 2 missingIdentifier.2] := by
    decide
  exact fun correction hcorrection => (hknown correction hcorrection).imp_right
    fun hedits => ⟨_, _, hedits⟩

theorem identifier?_onClass {corrections : List Correction}
    (h : ∀ correction ∈ corrections, correction.IdentifierKept) (classId : ClassId)
    (entity : Entity) :
    (onClass corrections classId entity).identifier? = entity.identifier? ∨
      (onClass corrections classId entity).identifier? = some missingIdentifier := by
  refine onClass_cases
    (P := fun changed => changed.identifier? = entity.identifier? ∨
      changed.identifier? = some missingIdentifier)
    (.inl rfl) fun correction hcorrection _ => ?_
  exact identifier?_make (h correction hcorrection) none entity

end Correction

/-- Known corrections, made of entities that have not been corrected before. -/
theorem Catalog.identifier?_correct_known {catalog : Catalog}
    (hfresh : catalog.All fun entity => entity.corrections = ∅) {classId : ClassId}
    {changed : Entity}
    (hchanged : (catalog.correct Correction.known).1.get? classId = some changed) :
    ∃ entity, catalog.get? (catalog.describing classId) = some entity ∧
      (changed.identifier? = entity.identifier? ∨
        changed.identifier? = some Correction.missingIdentifier) := by
  obtain ⟨entity, hentity, hshares⟩ := exists_read_of_correct_known hfresh hchanged
  refine ⟨entity, hentity, ?_⟩
  rw [Entity.identifier?, hshares.attributes]
  exact Correction.identifier?_onClass Correction.identifierKept_known classId entity

end Omci
