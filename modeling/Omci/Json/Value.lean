import Omci.Ascending
import Omci.Json.Basic

/-!
# JSON values

A value is a tree up to the order of its members and the spelling of their names: each
name stands once and the names ascend. `value?` gives the value of a tree, the last of
several members of one name counting; a tree has none when a part of it is unreadable.
-/

namespace Omci.Json

mutual

/-- Nothing is unreadable, and the names of every object are plain and ascend. -/
def isOrdered : Json → Bool
  | .arr items => itemsOrdered items
  | .obj members =>
    decide (members.Pairwise fun a b => a.1.text < b.1.text) && membersOrdered members
  | .unreadable => false
  | _ => true

def itemsOrdered : List Json → Bool
  | [] => true
  | item :: rest => item.isOrdered && itemsOrdered rest

def membersOrdered : List (Name × Json) → Bool
  | [] => true
  | (name, member) :: rest => name.isPlain && member.isOrdered && membersOrdered rest

end

/-- A tree in which nothing is unreadable and the names of every object are plain and
ascend. -/
structure Value where
  tree : Json
  ordered : tree.isOrdered = true
deriving DecidableEq

instance : Repr Value where
  reprPrec v := reprPrec v.tree

/-- Puts a member among later ones, one of which may have replaced it. -/
def putMember (name : String) (member : Json) (later : List (Name × Json)) :
    List (Name × Json) :=
  if later.any fun entry => entry.1.text = name then
    later
  else
    Ascending.putInto (fun entry => entry.1.text) (.plain name, member) later

mutual

def order? : Json → Option Json
  | .arr items => (orderItems? items).map .arr
  | .obj members => (orderMembers? members).map .obj
  | .unreadable => none
  | .null => some .null
  | .bool b => some (.bool b)
  | .int n => some (.int n)
  | .real x => some (.real x)
  | .str s => some (.str s)

def orderItems? : List Json → Option (List Json)
  | [] => some []
  | item :: rest =>
    match item.order?, orderItems? rest with
    | some item, some rest => some (item :: rest)
    | _, _ => none

def orderMembers? : List (Name × Json) → Option (List (Name × Json))
  | [] => some []
  | (name, member) :: rest =>
    match name.text?, member.order?, orderMembers? rest with
    | some name, some member, some rest => some (putMember name member rest)
    | _, _, _ => none

end

theorem membersOrdered_iff {members : List (Name × Json)} : membersOrdered members = true ↔
    ∀ entry ∈ members, entry.1.isPlain = true ∧ entry.2.isOrdered = true := by
  induction members with
  | nil => simp [membersOrdered]
  | cons entry rest ih => simp [membersOrdered, ih]

theorem mem_putMember {name : String} {member : Json} {later : List (Name × Json)}
    {entry : Name × Json} (h : entry ∈ putMember name member later) :
    entry = (.plain name, member) ∨ entry ∈ later := by
  unfold putMember at h
  split at h
  · exact .inr h
  · exact Ascending.mem_of_mem_putInto h

theorem pairwise_putMember {name : String} {member : Json} {later : List (Name × Json)}
    (h : later.Pairwise fun a b => a.1.text < b.1.text) :
    (putMember name member later).Pairwise fun a b => a.1.text < b.1.text := by
  unfold putMember
  split
  · exact h
  · exact Ascending.pairwise_putInto _ h

mutual

theorem isOrdered_of_order? : ∀ {tree ordered : Json},
    tree.order? = some ordered → ordered.isOrdered = true
  | .null, _, h | .bool _, _, h | .int _, _, h | .real _, _, h | .str _, _, h => by
    cases Option.some.inj h; rfl
  | .arr items, _, h => by
    obtain ⟨_, hitems, rfl⟩ := Option.map_eq_some_iff.1 h
    exact itemsOrdered_of_orderItems? hitems
  | .obj members, _, h => by
    obtain ⟨_, hmembers, rfl⟩ := Option.map_eq_some_iff.1 h
    simp only [isOrdered, Bool.and_eq_true, decide_eq_true_eq]
    exact ordered_of_orderMembers? hmembers
  | .unreadable, _, h => nomatch h

theorem itemsOrdered_of_orderItems? : ∀ {items ordered : List Json},
    orderItems? items = some ordered → itemsOrdered ordered = true
  | [], _, h => by cases Option.some.inj h; rfl
  | item :: rest, _, h => by
    unfold orderItems? at h
    split at h
    · next hitem hrest =>
      cases Option.some.inj h
      simp [itemsOrdered, isOrdered_of_order? hitem, itemsOrdered_of_orderItems? hrest]
    · exact nomatch h

theorem ordered_of_orderMembers? : ∀ {members ordered : List (Name × Json)},
    orderMembers? members = some ordered →
      ordered.Pairwise (fun a b => a.1.text < b.1.text) ∧ membersOrdered ordered = true
  | [], _, h => by cases Option.some.inj h; exact ⟨.nil, rfl⟩
  | (name, member) :: rest, _, h => by
    unfold orderMembers? at h
    split at h
    · next _ hmember hrest =>
      cases Option.some.inj h
      obtain ⟨ascending, ordered⟩ := ordered_of_orderMembers? hrest
      refine ⟨pairwise_putMember ascending, membersOrdered_iff.2 fun entry hentry => ?_⟩
      rcases mem_putMember hentry with rfl | hentry
      · exact ⟨rfl, isOrdered_of_order? hmember⟩
      · exact membersOrdered_iff.1 ordered entry hentry
    · exact nomatch h

end

/-- The value of a tree. -/
def value? (tree : Json) : Option Value :=
  match h : tree.order? with
  | some ordered => some ⟨ordered, isOrdered_of_order? h⟩
  | none => none

end Omci.Json
