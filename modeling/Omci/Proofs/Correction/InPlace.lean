import Omci.Correction
import Omci.Proofs.Extraction.Ending

/-!
# Edits as they are written

`Edit.make?` gives the edited entity back, or nothing, so that a failed edit has no
way to leave anything behind. `Edit.write` is the same edit for an entity that is
written to step by step: it looks for what the edit names, and it may have made some of
its changes already when something else turns out to be missing. It does not. Every
edit that names several things looks for all of them before it changes the first, so a
failure finds the entity as it was, and a success has written what `make?` gives back.
-/

namespace Omci.Edit

/-- Fails where there is no attribute. -/
def attributeAt (i : Nat) : EStateM Unit Entity Attribute := do
  match (← get).attributes.get? i with
  | some a => return a
  | none => throw ()

def writeAttributes (f : AttributeList → AttributeList) : EStateM Unit Entity Unit :=
  modify fun entity => { entity with attributes := f entity.attributes }

/-- Changes an attribute, which there has to be. -/
def writeAttribute (i : Nat) (f : Attribute → Attribute) : EStateM Unit Entity Unit := do
  let _ ← attributeAt i
  writeAttributes (·.modify i f)

theorem number_named (name : String) (alarm : Alarm) :
    ({ alarm with name := name } : Alarm).number = alarm.number := rfl

/-- Makes the edit in place. -/
def write (source : Option Entity) : Edit → EStateM Unit Entity Unit
  | setClassAccess access => modify fun entity => { entity with access := access }
  | addAction action =>
    modify fun entity => { entity with actions := entity.actions.put action }
  | removeAction action =>
    modify fun entity => { entity with actions := entity.actions.erase action.code }
  | renameAlarm number name => do
    match (← get).alarms with
    | none => throw ()
    | some alarms =>
      if alarms.has number then
        modify fun entity => { entity with
          alarms := some
            (alarms.adjust number (fun alarm => { alarm with name := name })
              (number_named name)) }
      else
        throw ()
  | appendToName suffix => do
    if !Text.endsWith suffix.toList (← get).name.toList then
      modify fun entity => { entity with name := entity.name ++ suffix }
  | setSize i size => writeAttribute i fun a => { a with size := some size }
  | setOctets i octets =>
    writeAttribute i (onSize fun size => { size with octets := some octets })
  | copySize i j => do
    let a ← attributeAt i
    writeAttribute j fun b => { b with size := a.size }
  | requireGetNext i => writeAttribute i (onSize fun size => { size with getNext := true })
  | addAccess i access =>
    writeAttribute i fun a => { a with access := a.access.putAll access }
  | setOptional i optional => writeAttribute i fun a => { a with optional := some optional }
  | setType i type => writeAttribute i fun a => { a with type := type }
  | renameAttribute i name => writeAttribute i fun a => { a with name := name }
  | splitAttribute i first second => do
    let a ← attributeAt i
    writeAttributes (·.insert (i + 1) a)
    writeAttributes (·.modify i fun a => { a with name := first })
    writeAttributes (·.modify (i + 1) fun a => { a with name := second })
  | repeatParts i parts optionalCopies => do
    writeAttribute i firstPart
    let first ← attributeAt i
    (List.range' 2 (parts - 1)).forM fun part =>
      writeAttributes (·.push (partOf first optionalCopies part))
  | removeAttribute i => do
    match (← get).attributes.remove? i with
    | none => throw ()
    | some (_, rest) => writeAttributes fun _ => rest
  | retainAttributes places => do
    if !places.all (· < (← get).attributes.size) then
      throw ()
    writeAttributes (·.keep places.contains)
  | prependAttribute name access octets type =>
    writeAttributes (·.insert 0 {
      name := name
      access := Ascending.ofList access
      optional := some false
      size := some (.ofOctets octets)
      type := type })
  | copyFrom _ => do
    match source with
    | none => throw ()
    | some other =>
      writeAttributes fun _ => other.attributes
      modify fun entity => { entity with actions := other.actions }
      modify fun entity => { entity with optionalActions := other.optionalActions }
      modify fun entity => { entity with alarms := other.alarms }
      modify fun entity => { entity with alerts := other.alerts }
      modify fun entity => { entity with avcs := other.avcs }
      modify fun entity => { entity with hidden := other.hidden }
      modify fun entity => { entity with phase := other.phase }

variable (entity : Entity)

theorem run_attributeAt (i : Nat) : (attributeAt i).run entity =
    match entity.attributes.get? i with
    | some a => .ok a entity
    | none => .error () entity := by
  rw [attributeAt, EStateM.run_bind, EStateM.run_get]
  dsimp only
  cases entity.attributes.get? i with
  | some a => rfl
  | none => rfl

theorem onAttribute?_eq (i : Nat) (f : Attribute → Attribute) : onAttribute? entity i f =
    (entity.attributes.get? i).map fun _ =>
      { entity with attributes := entity.attributes.modify i f } := by
  have hsome := entity.attributes.isSome_get? i
  rw [onAttribute?]
  cases ha : entity.attributes.get? i with
  | some a =>
    rw [ha] at hsome
    exact if_pos (of_decide_eq_true hsome.symm)
  | none =>
    rw [ha] at hsome
    exact if_neg (of_decide_eq_false hsome.symm)

theorem run_writeAttribute (i : Nat) (f : Attribute → Attribute) :
    (writeAttribute i f).run entity = entity.written (onAttribute? entity i f) := by
  rw [writeAttribute, EStateM.run_bind, run_attributeAt, onAttribute?_eq]
  cases entity.attributes.get? i with
  | some a => rfl
  | none => rfl

/-- Pushing one after the other is a loop without failures. -/
theorem run_forM_push {α : Type} (f : α → Attribute) (items : List α) :
    (items.forM fun item => writeAttributes (·.push (f item))).run entity =
      .ok () { entity with
        attributes := (items.map f).foldl AttributeList.push entity.attributes } := by
  induction items generalizing entity with
  | nil => rfl
  | cons item rest ih =>
    exact ih { entity with attributes := entity.attributes.push (f item) }

theorem run_write (edit : Edit) (source : Option Entity) :
    (edit.write source).run entity = entity.written (edit.make? entity source) := by
  cases edit with
  | setClassAccess | addAction | removeAction | prependAttribute => rfl
  | setSize | setOctets | requireGetNext | addAccess | setOptional | setType
  | renameAttribute =>
    exact run_writeAttribute entity _ _
  | renameAlarm number name =>
    rw [write, EStateM.run_bind, EStateM.run_get, make?]
    dsimp only
    cases entity.alarms with
    | none => rfl
    | some alarms =>
      dsimp only
      split
      · rfl
      · rfl
  | appendToName suffix =>
    rw [write, EStateM.run_bind, EStateM.run_get, make?]
    dsimp only
    cases Text.endsWith suffix.toList entity.name.toList with
    | true => rfl
    | false => rfl
  | copySize i j =>
    rw [write, EStateM.run_bind, run_attributeAt, make?]
    cases entity.attributes.get? i with
    | none => rfl
    | some a => exact run_writeAttribute entity j _
  | splitAttribute i first second =>
    rw [write, EStateM.run_bind, run_attributeAt, make?]
    cases entity.attributes.get? i with
    | none => rfl
    | some a => rfl
  | repeatParts i parts optionalCopies =>
    rw [write, EStateM.run_bind, run_writeAttribute, onAttribute?_eq, make?]
    cases ha : entity.attributes.get? i with
    | none => rfl
    | some a =>
      have hfirst : (entity.attributes.modify i firstPart).get? i = some (firstPart a) := by
        rw [AttributeList.get?_modify, if_pos rfl, ha, Option.map_some]
      show (do
        let first ← attributeAt i
        (List.range' 2 (parts - 1)).forM fun part =>
          writeAttributes (·.push (partOf first optionalCopies part))).run _ = _
      rw [EStateM.run_bind, run_attributeAt, hfirst, AttributeList.modify_of_get? ha]
      exact run_forM_push _ _ _
  | removeAttribute i =>
    rw [write, EStateM.run_bind, EStateM.run_get, make?]
    dsimp only
    cases entity.attributes.remove? i with
    | none => rfl
    | some removed => rfl
  | retainAttributes places =>
    rw [write, EStateM.run_bind, EStateM.run_get, make?]
    dsimp only
    cases places.all (· < entity.attributes.size) with
    | true => rfl
    | false => rfl
  | copyFrom classId =>
    cases source with
    | none => rfl
    | some other => rfl

end Omci.Edit
