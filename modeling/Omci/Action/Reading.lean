import Omci.Document
import Omci.Entity
import Omci.Text.Parens

/-!
# Reading actions

Actions stand as keywords between commas. A bold paragraph lists mandatory actions and
counts only if every item is a keyword; in plain text the list ends at the first item
that is none, and an item may be marked as optional.
-/

namespace Omci

open Text

/-- The actions that one paragraph names. -/
structure ActionLists where
  mandatory : ActionSet := ∅
  optional : ActionSet := ∅
deriving DecidableEq, Repr

namespace ActionLists

def isEmpty (lists : ActionLists) : Bool :=
  lists.mandatory.isEmpty && lists.optional.isEmpty

def has (lists : ActionLists) (action : Action) : Bool :=
  lists.mandatory.toList.contains action || lists.optional.toList.contains action

/-- The actions of a list of keywords, if it is not empty and has nothing but keywords. -/
def ofKeywords? (items : List (List Char)) : Option ActionLists :=
  if items.isEmpty then
    none
  else
    (items.mapM Action.ofKeyword?).map fun actions =>
      { mandatory := Ascending.ofList actions }

/-- Adds the actions of the items up to the first that is no keyword once its groups are
removed. -/
def addItems (lists : ActionLists) : List (List Char) → ActionLists
  | [] => lists
  | item :: rest =>
    match Action.ofKeyword? (replaceGroups [] item) with
    | none => lists
    | some action =>
      if contains "optional".toList (lower item) then
        addItems { lists with optional := lists.optional.put action } rest
      else
        addItems { lists with mandatory := lists.mandatory.put action } rest

/-- The items between commas that are not blank. -/
def items (s : List Char) : List (List Char) :=
  ((split ',' s).map trim).filter (!·.isEmpty)

/-- The actions that a paragraph names. -/
def read? (p : Paragraph) : Option ActionLists :=
  if p.isBold then
    ofKeywords? (items (toAscii p.boldText))
  else
    let lists := addItems {} (items p.asciiText)
    if lists.isEmpty then none else some lists

end ActionLists

namespace Attribute

/-- The name ends in the word table and is longer than it. -/
def isNamedTable (a : Attribute) : Bool :=
  let name := lower a.name.toList
  name.length > "table".length && endsWith "table".toList name

/-- Takes an attribute that is named as a table for one, unless its type is known. -/
def typedAsTable (a : Attribute) : Attribute :=
  if a.isNamedTable && a.type = .unknown then { a with type := .table } else a

end Attribute

/-- The entity with more actions. Only tables are read with get-next, so that action
gives the attributes that are named as tables their type. -/
def Entity.withActions (entity : Entity) (lists : ActionLists) : Entity :=
  { entity with
    actions := entity.actions.putAll lists.mandatory.toList
    optionalActions := entity.optionalActions.putAll lists.optional.toList
    attributes :=
      if lists.has .getNext then entity.attributes.map Attribute.typedAsTable
      else entity.attributes }

end Omci
