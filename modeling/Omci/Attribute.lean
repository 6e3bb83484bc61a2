import Omci.Ascending
import Omci.Json.Value
import Omci.Size

/-!
# Attributes

An attribute of a managed entity carries its number, which is its place in the attribute
list of the entity. Number 0 is the identifier of the entity.
-/

namespace Omci

/-- One way in which an attribute can be reached. -/
inductive Access where
  | read
  | write
  | setByCreate
deriving DecidableEq, Repr, Inhabited

namespace Access

def all : List Access := [.read, .write, .setByCreate]

def rank : Access → Nat
  | read => 0
  | write => 1
  | setByCreate => 2

end Access

abbrev AccessSet := Ascending Access.rank

inductive AttributeType where
  | unknown
  | octets
  | string
  | unsignedInteger
  | table
  | signedInteger
  | pointer
  | bitField
  | enumeration
  | counter
deriving DecidableEq, Repr, Inhabited

def AttributeType.all : List AttributeType := [
  .unknown, .octets, .string, .unsignedInteger, .table, .signedInteger, .pointer, .bitField,
  .enumeration, .counter]

structure Attribute where
  index : Nat := 0
  name : String
  /-- The numbers of the paragraphs that describe the attribute. -/
  description : List UInt64 := []
  access : AccessSet := ∅
  optional : Option Bool := none
  deprecated : Bool := false
  size : Option Size := none
  /-- Changes of the value are notified. -/
  avc : Bool := false
  /-- Threshold crossings are notified. -/
  tca : Bool := false
  type : AttributeType := .unknown
  /-- Terms separated by commas: a number, a range, a length or a mask. -/
  constraint : Option String := none
  default : Option Json.Value := none
deriving DecidableEq, Repr

namespace Attribute

/-- The octets of the value, as far as its size tells. -/
def octets (a : Attribute) : Option Int32 :=
  a.size.bind Size.derivedOctets

/-- The octets of the value as a length: none where the size is missing or marked
unbounded. -/
def length? (a : Attribute) : Option Nat :=
  a.octets.bind fun octets => if 0 ≤ octets.toInt then some octets.toInt.toNat else none

def isReadOnly (a : Attribute) : Bool :=
  a.access.toList = [.read]

def isTable (a : Attribute) : Bool :=
  a.type = .table

end Attribute

end Omci
