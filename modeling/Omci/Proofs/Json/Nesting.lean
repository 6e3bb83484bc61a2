import Omci.Json.Reader

/-!
# How deep a tree can nest that was read

The reader counts the brackets that are open and gives up what stands inside too
many of them. So nothing nests too deep in a tree that comes out of it, and a tree
that does cannot be told by any text. The writer does not count brackets: it
writes such a tree all the same.
-/

namespace Omci.Json

mutual

/-- Inside `depth` brackets the tree opens none beyond the limit. -/
def nestsWithin (depth : Nat) : Json → Bool
  | .arr items => depth < depthLimit && itemsNestWithin (depth + 1) items
  | .obj members => depth < depthLimit && membersNestWithin (depth + 1) members
  | _ => true

def itemsNestWithin (depth : Nat) : List Json → Bool
  | [] => true
  | item :: rest => item.nestsWithin depth && itemsNestWithin depth rest

def membersNestWithin (depth : Nat) : List (Name × Json) → Bool
  | [] => true
  | (_, member) :: rest => member.nestsWithin depth && membersNestWithin depth rest

end

variable {depth : Nat}

theorem itemsNestWithin_iff {items : List Json} :
    itemsNestWithin depth items = true ↔ ∀ item ∈ items, item.nestsWithin depth = true := by
  induction items with
  | nil => simp [itemsNestWithin]
  | cons item rest ih => simp [itemsNestWithin, ih]

theorem membersNestWithin_iff {members : List (Name × Json)} :
    membersNestWithin depth members = true ↔
      ∀ entry ∈ members, entry.2.nestsWithin depth = true := by
  induction members with
  | nil => simp [membersNestWithin]
  | cons entry rest ih => simp [membersNestWithin, ih]

theorem nestsWithin_arr {items : List Json}
    (h : ∀ item ∈ items, item.nestsWithin (depth + 1) = true) :
    (withinDepth depth (.arr items)).nestsWithin depth = true := by
  unfold withinDepth
  split
  · next hdepth =>
    rw [nestsWithin, decide_eq_true hdepth, itemsNestWithin_iff.2 h, Bool.and_self]
  · rfl

theorem nestsWithin_obj {members : List (Name × Json)}
    (h : ∀ entry ∈ members, entry.2.nestsWithin (depth + 1) = true) :
    (withinDepth depth (.obj members)).nestsWithin depth = true := by
  unfold withinDepth
  split
  · next hdepth =>
    rw [nestsWithin, decide_eq_true hdepth, membersNestWithin_iff.2 h, Bool.and_self]
  · rfl

theorem nestsWithin_toJson (literal : Literal) :
    literal.toJson.nestsWithin depth = true := by
  unfold Literal.toJson
  generalize (if literal.fraction.isEmpty && literal.power.isNone then literal.int?
    else none) = integer
  cases integer with
  | some n => rfl
  | none => cases literal.real? <;> rfl

mutual

theorem nestsWithin_of_readValue : ∀ {fuel depth : Nat} {s rest : List Char} {tree : Json},
    readValue fuel depth s = .ok (tree, rest) → tree.nestsWithin depth = true
  | 0, _, _, _, _, h => nomatch h
  | fuel + 1, depth, s, rest, tree, h => by
    unfold readValue at h
    split at h
    · cases h; rfl
    · cases h; rfl
    · cases h; rfl
    · split at h
      · cases h; rfl
      · cases h; rfl
      · cases h
    · split at h
      · cases h
        exact nestsWithin_arr (List.forall_mem_nil _)
      · exact nestsWithin_of_readItems (List.forall_mem_nil _) h
    · split at h
      · cases h
        exact nestsWithin_obj (List.forall_mem_nil _)
      · exact nestsWithin_of_readMembers (List.forall_mem_nil _) h
    · split at h
      · next hnumber =>
        cases h
        obtain ⟨⟨literal, _⟩, -, hliteral⟩ := Option.map_eq_some_iff.1 hnumber
        rw [← (Prod.mk.inj hliteral).1]
        exact nestsWithin_toJson literal
      · cases h

theorem nestsWithin_of_readItems : ∀ {fuel depth : Nat} {before : List Json}
    {s rest : List Char} {tree : Json},
    (∀ item ∈ before, item.nestsWithin (depth + 1) = true) →
    readItems fuel depth before s = .ok (tree, rest) → tree.nestsWithin depth = true
  | 0, _, _, _, _, _, _, h => nomatch h
  | fuel + 1, depth, before, s, rest, tree, hbefore, h => by
    unfold readItems at h
    split at h
    · cases h
    · next item _ hitem =>
      have hread : ∀ other ∈ item :: before, other.nestsWithin (depth + 1) = true :=
        List.forall_mem_cons.2 ⟨nestsWithin_of_readValue hitem, hbefore⟩
      split at h
      · exact nestsWithin_of_readItems hread h
      · cases h
        exact nestsWithin_arr fun other hother => hread other (List.mem_reverse.1 hother)
      · cases h

theorem nestsWithin_of_readMembers : ∀ {fuel depth : Nat} {before : List (Name × Json)}
    {s rest : List Char} {tree : Json},
    (∀ entry ∈ before, entry.2.nestsWithin (depth + 1) = true) →
    readMembers fuel depth before s = .ok (tree, rest) → tree.nestsWithin depth = true
  | 0, _, _, _, _, _, _, h => nomatch h
  | fuel + 1, depth, before, s, rest, tree, hbefore, h => by
    unfold readMembers at h
    split at h
    · split at h
      · cases h
      · next name _ _ =>
        split at h
        · split at h
          · cases h
          · next member _ hmember =>
            have hread : ∀ entry ∈ (name, member) :: before,
                entry.2.nestsWithin (depth + 1) = true :=
              List.forall_mem_cons.2 ⟨nestsWithin_of_readValue hmember, hbefore⟩
            split at h
            · exact nestsWithin_of_readMembers hread h
            · cases h
              exact nestsWithin_obj fun entry hentry =>
                hread entry (List.mem_reverse.1 hentry)
            · cases h
        · cases h
    · cases h

end

/-- What is read keeps to the limit. -/
theorem nestsWithin_of_read {text : String} {tree : Json} (h : read text = .whole tree) :
    tree.nestsWithin 0 = true := by
  unfold read at h
  dsimp only at h
  split at h
  · cases h
  · next hvalue =>
    split at h
    · cases h
      exact nestsWithin_of_readValue hvalue
    · cases h

end Omci.Json
