import Omci.Catalog
import Omci.Text.Numeral
import Omci.Text.Search

/-!
# Corrections

Some sections cannot be read as they are printed. A correction names the class that it
puts right and the edits to make, has a label, and is made at most once for an entity,
which keeps the label. It may demand a number of attributes first. Corrections that copy
from another class come after all others, so that what they copy has been put right.
-/

namespace Omci

/-- One edit of an entity. Numbers of attributes are places in the list as it is when
the edit is made. -/
inductive Edit where
  | setClassAccess (access : ClassAccess)
  | addAction (action : Action)
  | removeAction (action : Action)
  | renameAlarm (number : UInt8) (name : String)
  | appendToName (suffix : String)
  | setSize (index : Nat) (size : Size)
  /-- Changes the number of octets and leaves the rest of the size. -/
  | setOctets (index : Nat) (octets : Int32)
  | copySize (source target : Nat)
  /-- Marks the value as read with get-next. -/
  | requireGetNext (index : Nat)
  | addAccess (index : Nat) (access : List Access)
  | setOptional (index : Nat) (optional : Bool)
  | setType (index : Nat) (type : AttributeType)
  | renameAttribute (index : Nat) (name : String)
  /-- One paragraph describes two attributes: the attribute is doubled and the halves
  are named. -/
  | splitAttribute (index : Nat) (first second : String)
  /-- One paragraph describes a row of parts: the attribute becomes part 1, and the
  others follow at the end of the list. -/
  | repeatParts (index : Nat) (parts : Nat) (optionalCopies : Bool)
  | removeAttribute (index : Nat)
  | retainAttributes (places : List Nat)
  | prependAttribute (name : String) (access : List Access) (octets : Int32)
    (type : AttributeType)
  /-- Replaces what was read by what was read for another class. -/
  | copyFrom (classId : ClassId)
deriving DecidableEq, Repr

namespace Edit

/-- Changes the attribute at a place, if there is one. -/
def onAttribute? (entity : Entity) (i : Nat) (f : Attribute → Attribute) : Option Entity :=
  if i < entity.attributes.size then
    some { entity with attributes := entity.attributes.modify i f }
  else
    none

/-- Changes the size of an attribute; one without a size starts from the usual one. -/
def onSize (f : Size → Size) (a : Attribute) : Attribute :=
  { a with size := some (f (a.size.getD {})) }

/-- The attribute as the first part of several. -/
def firstPart (a : Attribute) : Attribute :=
  { a with
    name := "Part 1"
    optional := some false
    size := a.size.map fun size => { size with repeatMax := 1 } }

/-- The part with that number, made like the first one. -/
def partOf (first : Attribute) (optionalCopies : Bool) (part : Nat) : Attribute :=
  { first with
    name := "Part " ++ Text.numeral part
    optional := if optionalCopies then some true else first.optional }

/-- Makes the edit, `source` being the entity to copy from; `none` if what it names is
not there. -/
def make? (entity : Entity) (source : Option Entity) : Edit → Option Entity
  | setClassAccess access => some { entity with access := access }
  | addAction action => some { entity with actions := entity.actions.put action }
  | removeAction action => some { entity with actions := entity.actions.erase action.code }
  | renameAlarm number name =>
    match entity.alarms with
    | none => none
    | some alarms =>
      if alarms.has number then
        some { entity with
          alarms :=
            some (alarms.adjust number (fun alarm => { alarm with name := name })
              fun _ => rfl) }
      else
        none
  | appendToName suffix =>
    if Text.endsWith suffix.toList entity.name.toList then
      some entity
    else
      some { entity with name := entity.name ++ suffix }
  | setSize i size => onAttribute? entity i fun a => { a with size := some size }
  | setOctets i octets =>
    onAttribute? entity i (onSize fun size => { size with octets := some octets })
  | copySize i j =>
    (entity.attributes.get? i).bind fun a => onAttribute? entity j fun b =>
      { b with size := a.size }
  | requireGetNext i =>
    onAttribute? entity i (onSize fun size => { size with getNext := true })
  | addAccess i access =>
    onAttribute? entity i fun a => { a with access := a.access.putAll access }
  | setOptional i optional =>
    onAttribute? entity i fun a => { a with optional := some optional }
  | setType i type => onAttribute? entity i fun a => { a with type := type }
  | renameAttribute i name => onAttribute? entity i fun a => { a with name := name }
  | splitAttribute i first second =>
    (entity.attributes.get? i).map fun a =>
      let list := entity.attributes.insert (i + 1) a
      let list := list.modify i fun a => { a with name := first }
      { entity with attributes := list.modify (i + 1) fun a => { a with name := second } }
  | repeatParts i parts optionalCopies =>
    (entity.attributes.get? i).map fun a =>
      let first := firstPart a
      let copies := (List.range' 2 (parts - 1)).map (partOf first optionalCopies)
      { entity with
        attributes :=
          copies.foldl AttributeList.push (entity.attributes.modify i fun _ => first) }
  | removeAttribute i =>
    (entity.attributes.remove? i).map fun (_, list) => { entity with attributes := list }
  | retainAttributes places =>
    if places.all (· < entity.attributes.size) then
      some { entity with attributes := entity.attributes.keep places.contains }
    else
      none
  | prependAttribute name access octets type =>
    let a : Attribute := {
      name := name
      access := Ascending.ofList access
      optional := some false
      size := some (.ofOctets octets)
      type := type }
    some { entity with attributes := entity.attributes.insert 0 a }
  | copyFrom _ =>
    source.map fun other =>
      { entity with
        attributes := other.attributes
        actions := other.actions
        optionalActions := other.optionalActions
        alarms := other.alarms
        alerts := other.alerts
        avcs := other.avcs
        hidden := other.hidden
        phase := other.phase }

/-- Makes the edit if it can be made. -/
def make (source : Option Entity) (entity : Entity) (edit : Edit) : Entity :=
  (edit.make? entity source).getD entity

def copies : Edit → Bool
  | copyFrom _ => true
  | _ => false

end Edit

/-- The number of attributes that a correction demands. -/
inductive Requirement where
  | any
  | exactly (count : Nat)
  | atLeast (count : Nat)
deriving DecidableEq, Repr

def Requirement.admits (count : Nat) : Requirement → Bool
  | any => true
  | exactly n => count = n
  | atLeast n => n ≤ count

structure Correction where
  classId : ClassId
  label : String
  requires : Requirement := .any
  edits : List Edit
deriving DecidableEq, Repr

namespace Correction

/-- The correction copies from another class. -/
def copies (correction : Correction) : Bool :=
  correction.edits.any (·.copies)

/-- The correction has not been made and what it demands holds. -/
def isDue (correction : Correction) (entity : Entity) : Bool :=
  !entity.corrections.has correction.label &&
    correction.requires.admits entity.attributes.size

/-- Makes the edits one after the other, passing over those that cannot be made. -/
def edited (correction : Correction) (source : Option Entity) (entity : Entity) : Entity :=
  correction.edits.foldl (Edit.make source) entity

/-- Makes the correction and notes its label; `none` if it is not due. -/
def make? (correction : Correction) (source : Option Entity) (entity : Entity) :
    Option Entity :=
  if correction.isDue entity then
    let entity := correction.edited source entity
    some { entity with corrections := entity.corrections.put correction.label }
  else
    none

/-- Makes the correction if it is due. -/
def make (correction : Correction) (source : Option Entity) (entity : Entity) : Entity :=
  (correction.make? source entity).getD entity

end Correction

theorem Edit.classId_onAttribute? {entity changed : Entity} {i : Nat}
    {f : Attribute → Attribute} (h : Edit.onAttribute? entity i f = some changed) :
    changed.classId = entity.classId := by
  unfold Edit.onAttribute? at h
  split at h
  · cases h; rfl
  · cases h

theorem Edit.classId_make? {edit : Edit} {entity changed : Entity} {source : Option Entity}
    (h : edit.make? entity source = some changed) : changed.classId = entity.classId := by
  cases edit <;> simp only [Edit.make?] at h
  case renameAlarm =>
    split at h
    · cases h
    · split at h
      · cases h; rfl
      · cases h
  case appendToName => split at h <;> (cases h; rfl)
  case copySize =>
    obtain ⟨_, _, h⟩ := Option.bind_eq_some_iff.1 h
    exact Edit.classId_onAttribute? h
  case retainAttributes =>
    split at h
    · cases h; rfl
    · cases h
  case splitAttribute => obtain ⟨_, _, rfl⟩ := Option.map_eq_some_iff.1 h; rfl
  case repeatParts => obtain ⟨_, _, rfl⟩ := Option.map_eq_some_iff.1 h; rfl
  case removeAttribute => obtain ⟨_, _, rfl⟩ := Option.map_eq_some_iff.1 h; rfl
  case copyFrom => obtain ⟨_, _, rfl⟩ := Option.map_eq_some_iff.1 h; rfl
  all_goals first
    | exact Edit.classId_onAttribute? h
    | (cases h; rfl)

theorem Edit.classId_make (source : Option Entity) (entity : Entity) (edit : Edit) :
    (Edit.make source entity edit).classId = entity.classId := by
  unfold Edit.make
  cases h : edit.make? entity source with
  | none => rfl
  | some changed => exact Edit.classId_make? h

namespace Correction

theorem classId_edited (correction : Correction) (source : Option Entity)
    (entity : Entity) :
    (correction.edited source entity).classId = entity.classId := by
  unfold edited
  generalize correction.edits = edits
  induction edits generalizing entity with
  | nil => rfl
  | cons edit rest ih => rw [List.foldl_cons, ih, Edit.classId_make]

theorem classId_make (correction : Correction) (source : Option Entity) (entity : Entity) :
    (correction.make source entity).classId = entity.classId := by
  unfold make make?
  split
  · exact correction.classId_edited source entity
  · rfl

/-- The entity that the correction copies from, as the catalog has it. -/
def source? (correction : Correction) (catalog : Catalog) : Option Entity :=
  correction.edits.findSome? fun
    | .copyFrom classId => catalog.get? classId
    | _ => none

end Correction

namespace Catalog

/-- Makes one correction if its class is there and it is due, and says whether it was
made. -/
def correctOnce (catalog : Catalog) (correction : Correction) : Catalog × Bool :=
  let source := correction.source? catalog
  match catalog.get? correction.classId with
  | none => (catalog, false)
  | some entity =>
    if correction.isDue entity then
      (catalog.adjust correction.classId (correction.make source)
        (correction.classId_make source), true)
    else
      (catalog, false)

/-- Makes corrections one after the other, and counts those that were made. -/
def correctAll (catalog : Catalog) : List Correction → Catalog × Nat
  | [] => (catalog, 0)
  | correction :: rest =>
    let (catalog, made) := catalog.correctOnce correction
    let (catalog, count) := catalog.correctAll rest
    (catalog, if made then count + 1 else count)

/-- Makes the corrections that do not copy and then those that do, and counts those that
were made. -/
def correct (catalog : Catalog) (corrections : List Correction) : Catalog × Nat :=
  catalog.correctAll (corrections.filter (!·.copies) ++ corrections.filter (·.copies))

end Catalog

end Omci
