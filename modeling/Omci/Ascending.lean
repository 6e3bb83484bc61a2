/-!
# Ascending collections

Items in strictly ascending order of a key that each of them carries, so that a key
belongs to at most one item. With the item itself as its key this is a finite set, with
a number or a name as key a finite map whose entries know their place. `put` replaces
the item that has the same key.
-/

namespace Omci

universe u v

/-- Items in strictly ascending order of their keys. -/
structure Ascending {α : Type u} {κ : Type v} [LT κ] (key : α → κ) where
  toList : List α
  ascending : toList.Pairwise fun x y => key x < key y

namespace Ascending

section Order

variable {α : Type u} {κ : Type v} [LT κ] {key : α → κ}

@[ext] theorem ext {a b : Ascending key} (h : a.toList = b.toList) : a = b := by
  cases a; cases b; cases h; rfl

instance [DecidableEq α] : DecidableEq (Ascending key) := fun a b =>
  decidable_of_iff (a.toList = b.toList) ⟨ext, fun h => h ▸ rfl⟩

instance [Repr α] : Repr (Ascending key) where
  reprPrec a := reprPrec a.toList

def empty : Ascending key := ⟨[], .nil⟩

instance : EmptyCollection (Ascending key) := ⟨empty⟩

instance : Inhabited (Ascending key) := ⟨empty⟩

def isEmpty (a : Ascending key) : Bool :=
  a.toList.isEmpty

def size (a : Ascending key) : Nat :=
  a.toList.length

instance : Membership α (Ascending key) := ⟨fun a x => x ∈ a.toList⟩

def get? [DecidableEq κ] (a : Ascending key) (k : κ) : Option α :=
  a.toList.find? fun x => key x = k

/-- Some item has the key. -/
def has [DecidableEq κ] (a : Ascending key) (k : κ) : Bool :=
  a.toList.any fun x => key x = k

def erase [DecidableEq κ] (a : Ascending key) (k : κ) : Ascending key :=
  ⟨a.toList.filter fun x => key x ≠ k, a.ascending.filter _⟩

/-- Changes every item without changing its key. -/
def map (a : Ascending key) (f : α → α) (h : ∀ x, key (f x) = key x) : Ascending key :=
  ⟨a.toList.map f,
    List.pairwise_map.2 (a.ascending.imp fun {x y} lt => by rw [h x, h y]; exact lt)⟩

/-- Changes the item that has the key, if there is one, without changing the key. -/
def adjust [DecidableEq κ] (a : Ascending key) (k : κ) (f : α → α)
    (h : ∀ x, key (f x) = key x) :
    Ascending key :=
  a.map (fun x => if key x = k then f x else x) fun x => by split <;> simp [h]

end Order

section Put

variable {α : Type u} {κ : Type v} [LT κ] [DecidableLT κ] {key : α → κ}

/-- Inserts an item in front of the greater keys, in place of one with the same key. -/
def putInto (key : α → κ) (x : α) : List α → List α
  | [] => [x]
  | y :: rest =>
    if key x < key y then
      x :: y :: rest
    else if key y < key x then
      y :: putInto key x rest
    else
      x :: rest

theorem mem_of_mem_putInto {x y : α} {l : List α} (h : y ∈ putInto key x l) :
    y = x ∨ y ∈ l := by
  induction l with
  | nil => exact .inl (by simpa [putInto] using h)
  | cons z rest ih =>
    unfold putInto at h
    split at h
    · exact List.mem_cons.1 h
    · split at h
      · rcases List.mem_cons.1 h with rfl | h
        · simp
        · exact (ih h).imp id (List.mem_cons_of_mem _)
      · exact (List.mem_cons.1 h).imp id (List.mem_cons_of_mem _)

variable [LE κ] [Std.LawfulOrderLT κ] [Std.IsLinearOrder κ]

theorem pairwise_putInto (x : α) {l : List α} (h : l.Pairwise fun y z => key y < key z) :
    (putInto key x l).Pairwise fun y z => key y < key z := by
  induction l with
  | nil => simp [putInto]
  | cons y rest ih =>
    obtain ⟨below, rest_ascending⟩ := List.pairwise_cons.1 h
    unfold putInto
    split
    · next lt =>
      refine List.pairwise_cons.2 ⟨fun z hz => ?_, h⟩
      rcases List.mem_cons.1 hz with rfl | hz
      · exact lt
      · exact Std.lt_trans lt (below z hz)
    · split
      · next gt =>
        refine List.pairwise_cons.2 ⟨fun z hz => ?_, ih rest_ascending⟩
        rcases mem_of_mem_putInto hz with rfl | hz
        · exact gt
        · exact below z hz
      · next not_lt not_gt =>
        have same : key x = key y :=
          Std.le_antisymm (Std.not_lt.1 not_gt) (Std.not_lt.1 not_lt)
        exact List.pairwise_cons.2 ⟨fun z hz => same ▸ below z hz, rest_ascending⟩

def put (a : Ascending key) (x : α) : Ascending key :=
  ⟨putInto key x a.toList, pairwise_putInto x a.ascending⟩

/-- Puts the items one after the other. -/
def putAll (a : Ascending key) (items : List α) : Ascending key :=
  items.foldl put a

def ofList (items : List α) : Ascending key :=
  empty.putAll items

end Put

end Ascending

end Omci
