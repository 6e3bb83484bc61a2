import Omci.Attribute

/-!
# Attribute lists

The place of an attribute in its list is its number. Whatever changes the length of a
list numbers the attributes again; what changes attributes in place leaves their numbers
alone.
-/

namespace Omci

/-- Attributes in order. -/
structure AttributeList where
  toList : List Attribute := []
deriving DecidableEq, Repr

namespace AttributeList

instance : EmptyCollection AttributeList := ⟨⟨[]⟩⟩

instance : Inhabited AttributeList := ⟨⟨[]⟩⟩

def size (list : AttributeList) : Nat :=
  list.toList.length

def isEmpty (list : AttributeList) : Bool :=
  list.toList.isEmpty

def get? (list : AttributeList) (i : Nat) : Option Attribute :=
  list.toList[i]?

/-- Gives every attribute its place as its number. -/
def renumber (attributes : List Attribute) : AttributeList :=
  ⟨attributes.mapIdx fun i a => { a with index := i }⟩

def push (list : AttributeList) (a : Attribute) : AttributeList :=
  ⟨list.toList ++ [{ a with index := list.size }]⟩

/-- Pushes the attributes one after the other onto an empty list. -/
def ofList (attributes : List Attribute) : AttributeList :=
  attributes.foldl push ∅

/-- Inserts in front of the attribute at the place, or at the end if there is none. -/
def insert (list : AttributeList) (i : Nat) (a : Attribute) : AttributeList :=
  renumber (list.toList.insertIdx (min i list.size) a)

/-- Takes the attribute out, and gives it back with the number it had. -/
def remove? (list : AttributeList) (i : Nat) : Option (Attribute × AttributeList) :=
  list.toList[i]?.map fun a => (a, renumber (list.toList.eraseIdx i))

/-- Keeps the attributes whose places pass the test. -/
def keep (list : AttributeList) (test : Nat → Bool) : AttributeList :=
  renumber ((list.toList.zipIdx.filter fun entry => test entry.2).map Prod.fst)

/-- Changes the attribute at the place, if there is one. -/
def modify (list : AttributeList) (i : Nat) (f : Attribute → Attribute) : AttributeList :=
  ⟨list.toList.modify i f⟩

/-- Changes the last attribute, if there is one. -/
def modifyLast (list : AttributeList) (f : Attribute → Attribute) : AttributeList :=
  list.modify (list.size - 1) f

/-- Changes every attribute in place. -/
def map (list : AttributeList) (f : Attribute → Attribute) : AttributeList :=
  ⟨list.toList.map f⟩

/-- Every attribute has its place as its number. -/
def Positional (list : AttributeList) : Prop :=
  ∀ (i : Nat) (a : Attribute), list.toList[i]? = some a → a.index = i

end AttributeList

end Omci
