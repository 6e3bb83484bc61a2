import Omci.Json.Value

/-!
# A value is the value of its own tree

Ordering a tree changes nothing once its members ascend: each member is put in
front of later ones that are all greater, which is where it was. So a value
that is written out and ordered again is the same value, and only a tree that
says null has null for its value.
-/

namespace Omci.Json

theorem putMember_of_forall_lt {name : String} {member : Json} {later : List (Name × Json)}
    (h : ∀ entry ∈ later, name < entry.1.text) :
    putMember name member later = (.plain name, member) :: later := by
  have hany : (later.any fun entry => entry.1.text = name) = false := by
    rw [List.any_eq_false]
    intro entry hentry heq
    have hlt := h entry hentry
    rw [of_decide_eq_true heq] at hlt
    exact Std.lt_irrefl hlt
  unfold putMember
  rw [if_neg (by rw [hany]; exact Bool.false_ne_true)]
  cases later with
  | nil => rfl
  | cons entry rest => exact if_pos (h entry List.mem_cons_self)

mutual

theorem order?_of_isOrdered : ∀ {tree : Json}, tree.isOrdered = true →
    tree.order? = some tree
  | .null, _ | .bool _, _ | .int _, _ | .real _, _ | .str _, _ => rfl
  | .arr items, h => by
    rw [order?, orderItems?_of_itemsOrdered h]
    rfl
  | .obj members, h => by
    simp only [isOrdered, Bool.and_eq_true, decide_eq_true_eq] at h
    rw [order?, orderMembers?_of_ordered h.1 h.2]
    rfl
  | .unreadable, h => nomatch h

theorem orderItems?_of_itemsOrdered : ∀ {items : List Json}, itemsOrdered items = true →
    orderItems? items = some items
  | [], _ => rfl
  | item :: rest, h => by
    simp only [itemsOrdered, Bool.and_eq_true] at h
    rw [orderItems?, order?_of_isOrdered h.1, orderItems?_of_itemsOrdered h.2]

theorem orderMembers?_of_ordered : ∀ {members : List (Name × Json)},
    members.Pairwise (fun a b => a.1.text < b.1.text) → membersOrdered members = true →
      orderMembers? members = some members
  | [], _, _ => rfl
  | (.plain name, member) :: rest, ascending, h => by
    simp only [membersOrdered, Bool.and_eq_true] at h
    obtain ⟨below, ascending⟩ := List.pairwise_cons.1 ascending
    rw [orderMembers?, order?_of_isOrdered h.1.2, orderMembers?_of_ordered ascending h.2]
    exact congrArg some (putMember_of_forall_lt below)
  | (.escaped _, _) :: _, _, h => by simp [membersOrdered, Name.isPlain] at h
  | (.unreadable, _) :: _, _, h => by simp [membersOrdered, Name.isPlain] at h

end

@[simp] theorem value?_tree (v : Value) : value? v.tree = some v := by
  have hv := order?_of_isOrdered v.ordered
  unfold value?
  split
  · next ordered h =>
    obtain rfl : v.tree = ordered := Option.some.inj (hv.symm.trans h)
    rfl
  · next h => exact nomatch hv.symm.trans h

theorem tree_of_value? {tree : Json} {v : Value} (h : value? tree = some v) :
    tree.order? = some v.tree := by
  unfold value? at h
  split at h
  · next hordered =>
    cases Option.some.inj h
    exact hordered
  · exact nomatch h

/-- Only null has the value null. -/
theorem eq_null_of_value? {tree : Json} {v : Value} (h : value? tree = some v)
    (hv : v.tree = .null) : tree = .null := by
  have horder := tree_of_value? h
  rw [hv] at horder
  cases tree with
  | null => rfl
  | arr items =>
    obtain ⟨_, _, heq⟩ := Option.map_eq_some_iff.1 horder
    exact nomatch heq
  | obj members =>
    obtain ⟨_, _, heq⟩ := Option.map_eq_some_iff.1 horder
    exact nomatch heq
  | bool _ | int _ | real _ | str _ | unreadable => cases horder

end Omci.Json
