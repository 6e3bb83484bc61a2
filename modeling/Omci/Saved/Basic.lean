import Omci.Ascending
import Omci.Json.Value
import Omci.Text.Numeral

/-!
# Saved forms

A type is `Saved` when its values can be written as JSON trees and read from them. A
record is written as an object and read from an object or from the array of its fields;
`Json.fields` finds the fields and `Slot` says which of them may be missing. Unknown
members are passed over, a field that stands twice is refused.
-/

namespace Omci

/-- Values with a saved form. -/
class Saved (α : Type) where
  toJson : α → Json
  ofJson? : Json → Option α

export Saved (toJson)

namespace Saved

instance : Saved Json := ⟨id, some⟩

instance : Saved Bool where
  toJson := .bool
  ofJson?
    | .bool b => some b
    | _ => none

instance : Saved String where
  toJson := .str
  ofJson?
    | .str s => some s
    | _ => none

/-! ## Numbers -/

/-- A natural number below the bound. -/
def naturalBelow? (bound : Nat) : Json → Option Nat
  | .int n => if 0 ≤ n ∧ n < bound then some n.toNat else none
  | _ => none

/-- Counts and positions are words of 64 bits when they are saved. -/
instance : Saved Nat := ⟨fun n => .int n, naturalBelow? UInt64.size⟩

instance : Saved UInt8 :=
  ⟨fun n => .int n.toNat, fun j => (naturalBelow? UInt8.size j).map UInt8.ofNat⟩

instance : Saved UInt16 :=
  ⟨fun n => .int n.toNat, fun j => (naturalBelow? UInt16.size j).map UInt16.ofNat⟩

instance : Saved UInt32 :=
  ⟨fun n => .int n.toNat, fun j => (naturalBelow? UInt32.size j).map UInt32.ofNat⟩

instance : Saved UInt64 :=
  ⟨fun n => .int n.toNat, fun j => (naturalBelow? UInt64.size j).map UInt64.ofNat⟩

instance : Saved Int32 where
  toJson n := .int n.toInt
  ofJson?
    | .int n =>
      if Int32.minValue.toInt ≤ n ∧
        n ≤ Int32.maxValue.toInt then some (Int32.ofInt n) else none
    | _ => none

/-! ## Lists and sets -/

def listOfJson? {α : Type} [Saved α] : List Json → Option (List α)
  | [] => some []
  | item :: rest =>
    match ofJson? item, listOfJson? rest with
    | some item, some rest => some (item :: rest)
    | _, _ => none

instance {α : Type} [Saved α] : Saved (List α) where
  toJson items := .arr (items.map toJson)
  ofJson?
    | .arr items => listOfJson? items
    | _ => none

/-- An ascending collection of items that hold their whole key is saved as the list of
its items. -/
instance {α κ : Type} [Saved α] [LE κ] [LT κ] [DecidableLT κ] [Std.LawfulOrderLT κ]
    [Std.IsLinearOrder κ] {key : α → κ} : Saved (Ascending key) where
  toJson a := toJson a.toList
  ofJson? j := (ofJson? j).map Ascending.ofList

/-! ## Maps -/

/-- Reads every member of an object. -/
def membersOfJson? {α : Type} (item? : Json.Name → Json → Option α) :
    List (Json.Name × Json) → Option (List α)
  | [] => some []
  | (name, member) :: rest =>
    match item? name member, membersOfJson? item? rest with
    | some entry, some rest => some (entry :: rest)
    | _, _ => none

/-- A member name that stands for a number below the bound: its decimal numeral, written
without escapes, and nothing else. -/
def numberName? (bound : Nat) : Json.Name → Option Nat
  | .plain name =>
    (Text.natural? name.toList).filter fun n => n < bound && Text.decimal n = name.toList
  | _ => none

/-! ## Enumerations -/

/-- The name of a variant, alone or as the only member of an object whose value is null. -/
def variantName? : Json → Option String
  | .str name => some name
  | .obj [(name, .null)] => name.text?
  | _ => none

/-- The value among `all` that has the saved name. -/
def variant? {α : Type} (all : List α) (name : α → String) (j : Json) : Option α :=
  (variantName? j).bind fun s => all.find? fun a => name a = s

/-! ## Records -/

/-- What a record holds for one of its fields. -/
inductive Slot where
  | given (value : Json)
  /-- An object without the field. -/
  | omitted
  /-- An array that ends before the field. -/
  | cut

namespace Slot

variable {α : Type} [Saved α]

def required : Slot → Option α
  | .given value => ofJson? value
  | _ => none

/-- A field that takes the default where it is missing. -/
def orElse (byDefault : α) : Slot → Option α
  | .given value => ofJson? value
  | _ => some byDefault

/-- A field of an object that may be null or missing; an array must hold it. -/
def nullable : Slot → Option (Option α)
  | .given .null => some none
  | .given value => (ofJson? value).map some
  | .omitted => some none
  | .cut => none

/-- A field that may be null or missing. -/
def orNone : Slot → Option (Option α)
  | .given .null => some none
  | .given value => (ofJson? value).map some
  | _ => some none

end Slot

/-- The member of that name. -/
def memberSlot (members : List (Json.Name × Json)) (name : String) : Option Slot :=
  match members.filter fun entry => entry.1.text? = some name with
  | [] => some .omitted
  | [(_, value)] => some (.given value)
  | _ => none

def memberSlots (members : List (Json.Name × Json)) : List String → Option (List Slot)
  | [] => some []
  | name :: rest =>
    match memberSlot members name, memberSlots members rest with
    | some slot, some slots => some (slot :: slots)
    | _, _ => none

def itemSlots : List String → List Json → Option (List Slot)
  | [], [] => some []
  | [], _ :: _ => none
  | _ :: names, [] => (itemSlots names []).map (.cut :: ·)
  | _ :: names, item :: rest => (itemSlots names rest).map (.given item :: ·)

/-- The fields of a record, given the names of its fields in order. The names of all
members have to be readable. -/
def fields (names : List String) : Json → Option (List Slot)
  | .obj members =>
    if members.all fun entry => entry.1.text?.isSome then
      memberSlots members names
    else none
  | .arr items => itemSlots names items
  | _ => none

/-- A member that is left out when there is no value. -/
def memberOf {α : Type} [Saved α] (name : String) : Option α → List (Json.Name × Json)
  | some a => [(name, toJson a)]
  | none => []

/-- Null for nothing. -/
def nullOr {α : Type} [Saved α] : Option α → Json
  | some a => toJson a
  | none => .null

end Saved

end Omci
