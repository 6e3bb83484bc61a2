import Omci.Action
import Omci.AttributeList
import Omci.Notification
import Omci.Phase

/-!
# Managed entities

One class of the catalog, with all that its section of the document says about it.
-/

namespace Omci

abbrev ClassId := UInt16

/-- Who creates the instances of a class. -/
inductive ClassAccess where
  | unknown
  | createdByOnu
  | createdByOlt
  | createdByBoth
deriving DecidableEq, Repr, Inhabited

def ClassAccess.all : List ClassAccess :=
  [.unknown, .createdByOnu, .createdByOlt, .createdByBoth]

/-- A section of the document, by number and title. -/
structure SectionRef where
  number : String
  title : String
deriving DecidableEq, Repr

/-- Labels of corrections. -/
abbrev LabelSet := Ascending (id : String → String)

structure Entity where
  classId : ClassId
  name : String
  sectionRef : Option SectionRef := none
  /-- The numbers of the paragraphs that describe the class. -/
  description : List UInt64 := []
  /-- The numbers of the paragraphs on its relationships. -/
  relationships : List UInt64 := []
  access : ClassAccess := .unknown
  hidden : Bool := false
  actions : ActionSet := ∅
  optionalActions : ActionSet := ∅
  attributes : AttributeList := ∅
  alarms : Option AlarmTable := none
  alerts : Option ThresholdAlertTable := none
  avcs : Option ValueChangeTable := none
  /-- The phase that reading its section has reached. -/
  phase : Phase := .initial
  /-- The labels of the corrections that have been made. -/
  corrections : LabelSet := ∅
deriving DecidableEq, Repr

namespace Entity

def isComplete (entity : Entity) : Bool :=
  entity.phase = .complete

end Entity

end Omci
