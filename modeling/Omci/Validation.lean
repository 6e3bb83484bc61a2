import Omci.Catalog
import Omci.Text.Numeral

/-!
# Validation

An entity is plausible when its section was read to the end and it has actions,
attributes in a possible number, and accesses and sizes for all of them. Any other
entity counts as failed, and the summary of the run says why.
-/

namespace Omci

/-- The greatest number of attributes, the identifier included. -/
def maxAttributes : Nat := 17

/-- What is implausible about an entity. -/
inductive Issue where
  | incomplete (phase : Phase)
  | noActions
  | noAttributes
  | tooManyAttributes (count : Nat)
  | withoutAccess
  | withoutSize
  | zeroSize
deriving DecidableEq, Repr

def Issue.message : Issue → String
  | incomplete phase => "parsing ended in state " ++ phase.name
  | noActions => "no actions"
  | noAttributes => "no attributes"
  | tooManyAttributes count => Text.numeral count ++ " attributes"
  | withoutAccess => "attribute without access"
  | withoutSize => "attribute without size"
  | zeroSize => "attribute with zero size"

namespace Entity

/-- The number of attributes is possible. -/
def hasPlausibleCount (entity : Entity) : Bool :=
  !entity.attributes.isEmpty && entity.attributes.size ≤ maxAttributes

/-- What is implausible about the attributes, each issue once. -/
def attributeIssues (entity : Entity) : List Issue :=
  let attributes := entity.attributes.toList
  (if attributes.any (·.access.isEmpty) then [.withoutAccess] else []) ++
  (if attributes.any (·.octets.isNone) then [.withoutSize] else []) ++
  (if attributes.any (·.octets = some 0) then [.zeroSize] else [])

/-- Everything that is implausible. Attributes in an impossible number are not looked at. -/
def issues (entity : Entity) : List Issue :=
  (if entity.isComplete then [] else [.incomplete entity.phase]) ++
  (if entity.actions.isEmpty then [.noActions] else []) ++
  (if entity.attributes.isEmpty then [.noAttributes]
    else if maxAttributes < entity.attributes.size then
    [.tooManyAttributes entity.attributes.size] else entity.attributeIssues)

/-- The entity as failed, if it was complete and is implausible. -/
def validated (entity : Entity) : Entity :=
  if entity.isComplete && !entity.issues.isEmpty then
    { entity with phase := .failure }
  else entity

end Entity

structure ClassIssue where
  classId : ClassId
  name : String
  issues : List String
deriving DecidableEq, Repr

/-- The outcome of a run. The lists hold class ids. -/
structure Summary where
  generatedAt : String := ""
  input : String := ""
  entities : Nat := 0
  complete : Nat := 0
  failed : Nat := 0
  attributes : Nat := 0
  withoutSection : List ClassId := []
  incomplete : List ClassId := []
  noActions : List ClassId := []
  noAttributes : List ClassId := []
  tooManyAttributes : List ClassId := []
  withoutAccess : List ClassId := []
  withoutSize : List ClassId := []
  zeroSize : List ClassId := []
  issues : List ClassIssue := []
deriving DecidableEq, Repr

namespace Catalog

/-- The catalog in which the implausible entities have failed. -/
def validate (catalog : Catalog) : Catalog :=
  catalog.map Entity.validated fun entity => by
    unfold Entity.validated
    split <;> rfl

/-- The class ids of the entities with some issue that passes the test. -/
def withIssue (catalog : Catalog) (test : Issue → Bool) : List ClassId :=
  (catalog.entities.toList.filter fun entity => entity.issues.any test).map (·.classId)

/-- The summary of validating the catalog. -/
def summary (catalog : Catalog) : Summary :=
  let entities := catalog.entities.toList
  let validated := catalog.validate.entities.toList
  { entities := entities.length
    complete := validated.countP (·.isComplete)
    failed := validated.countP (·.phase = .failure)
    attributes :=
      ((entities.filter (·.hasPlausibleCount)).map (·.attributes.size)).foldr (· + ·) 0
    incomplete := catalog.withIssue fun | .incomplete _ => true | _ => false
    noActions := catalog.withIssue (· = .noActions)
    noAttributes := catalog.withIssue (· = .noAttributes)
    tooManyAttributes := catalog.withIssue fun | .tooManyAttributes _ => true | _ => false
    withoutAccess := catalog.withIssue (· = .withoutAccess)
    withoutSize := catalog.withIssue (· = .withoutSize)
    zeroSize := catalog.withIssue (· = .zeroSize)
    issues := (entities.filter (!·.issues.isEmpty)).map fun entity =>
      ⟨entity.classId, entity.name, entity.issues.map Issue.message⟩ }

end Catalog

end Omci
