/-!
# Phases of a section

The section of a managed entity runs through phases: description, relationships,
attributes, actions and notifications. `Phase.next` says where a trigger leads. It is
total: a trigger that a phase does not expect leads to failure.
-/

namespace Omci

inductive Phase where
  | initial
  | description
  | relationships
  | attributes
  | actions
  | notifications
  | alarms
  | avcs
  | tests
  | complete
  | failure
  | endOfSection
deriving DecidableEq, Repr, Inhabited

/-- What a block of a section announces. -/
inductive Trigger where
  | normal
  | description
  | relationships
  | attributes
  | actions
  | notifications
  | alarms
  | avcs
  | tests
  | endOfSection
  | complete
  | failure
deriving DecidableEq, Repr, Inhabited

namespace Phase

def all : List Phase := [
  .initial, .description, .relationships, .attributes, .actions, .notifications,
  .alarms, .avcs, .tests, .complete, .failure, .endOfSection]

def name : Phase → String
  | initial => "initial"
  | description => "description"
  | relationships => "relationships"
  | attributes => "attributes"
  | actions => "actions"
  | notifications => "notifications"
  | alarms => "alarms"
  | avcs => "avcs"
  | tests => "tests"
  | complete => "complete"
  | failure => "failure"
  | endOfSection => "end_of_section"

/-- Nothing that follows is read any more. -/
def isTerminal (phase : Phase) : Bool :=
  phase = complete || phase = failure

/-- The phase behind a trigger. -/
def next : Phase → Trigger → Phase
  | _, .endOfSection => endOfSection
  | _, .complete => complete
  | _, .failure => failure
  | initial, .normal | initial, .description | description, .normal => description
  | initial, .relationships | description, .relationships | relationships, .normal =>
    relationships
  | initial, .attributes | description, .attributes | relationships, .attributes
  | attributes, .normal => attributes
  | attributes, .actions | actions, .normal => actions
  | actions, .notifications | notifications, .normal => notifications
  | notifications, .alarms | avcs, .alarms | tests, .alarms | alarms, .normal => alarms
  | notifications, .avcs | alarms, .avcs | tests, .avcs | avcs, .normal => avcs
  | notifications, .tests | alarms, .tests | avcs, .tests | tests, .normal => tests
  | _, _ => failure

end Phase

end Omci
