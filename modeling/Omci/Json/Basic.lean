import Omci.Binary64

/-!
# JSON trees

A tree keeps what a text says and not only what it means: an object lists its members in
written order, repeated names included, because the readers of records refuse a repeated
field, and a name tells whether it was written with escapes. Integers of 64 bits are
`int`, other numbers are binary. `unreadable` stands for a part of a text that is well
formed but cannot be held: a text with an unpaired surrogate, a number that is too
great, or brackets nested beyond the limit of the reader.
-/

namespace Omci

namespace Json

/-- The name of a member. -/
inductive Name where
  /-- Written character by character. -/
  | plain (text : String)
  /-- Written with escapes. -/
  | escaped (text : String)
  /-- Holds an unpaired surrogate. -/
  | unreadable
deriving DecidableEq, Repr

instance : Coe String Name := ⟨.plain⟩

namespace Name

def text? : Name → Option String
  | plain text | escaped text => some text
  | unreadable => none

/-- The text of a name, empty if it has none. -/
def text (name : Name) : String :=
  name.text?.getD ""

def isPlain : Name → Bool
  | plain _ => true
  | _ => false

end Name

end Json

inductive Json where
  | null
  | bool (value : Bool)
  | int (value : Int)
  | real (value : Binary64)
  | str (value : String)
  | arr (items : List Json)
  | obj (members : List (Json.Name × Json))
  | unreadable
deriving Inhabited, Repr

namespace Json

mutual

def beq : Json → Json → Bool
  | .null, .null => true
  | .bool a, .bool b => a == b
  | .int a, .int b => a == b
  | .real a, .real b => a == b
  | .str a, .str b => a == b
  | .arr a, .arr b => beqItems a b
  | .obj a, .obj b => beqMembers a b
  | .unreadable, .unreadable => true
  | _, _ => false

def beqItems : List Json → List Json → Bool
  | [], [] => true
  | a :: as, b :: bs => beq a b && beqItems as bs
  | _, _ => false

def beqMembers : List (Name × Json) → List (Name × Json) → Bool
  | [], [] => true
  | (k, a) :: as, (l, b) :: bs => k == l && beq a b && beqMembers as bs
  | _, _ => false

end

mutual

theorem beq_refl : ∀ a : Json, beq a a = true
  | .null | .unreadable => rfl
  | .bool _ | .int _ | .real _ | .str _ => by simp [beq]
  | .arr items => by simp [beq, beqItems_refl items]
  | .obj members => by simp [beq, beqMembers_refl members]

theorem beqItems_refl : ∀ items : List Json, beqItems items items = true
  | [] => rfl
  | a :: rest => by simp [beqItems, beq_refl a, beqItems_refl rest]

theorem beqMembers_refl : ∀ members : List (Name × Json), beqMembers members members = true
  | [] => rfl
  | (k, a) :: rest => by simp [beqMembers, beq_refl a, beqMembers_refl rest]

end

mutual

theorem eq_of_beq : ∀ {a b : Json}, beq a b = true → a = b
  | .null, b, h => by cases b <;> simp_all [beq]
  | .bool _, b, h => by cases b <;> simp_all [beq]
  | .int _, b, h => by cases b <;> simp_all [beq]
  | .real _, b, h => by cases b <;> simp_all [beq]
  | .str _, b, h => by cases b <;> simp_all [beq]
  | .arr _, b, h => by
    cases b <;> simp only [beq, Bool.false_eq_true] at h
    exact congrArg _ (eq_of_beqItems h)
  | .obj _, b, h => by
    cases b <;> simp only [beq, Bool.false_eq_true] at h
    exact congrArg _ (eq_of_beqMembers h)
  | .unreadable, b, h => by cases b <;> simp_all [beq]

theorem eq_of_beqItems : ∀ {a b : List Json}, beqItems a b = true → a = b
  | [], b, h => by cases b <;> simp_all [beqItems]
  | _ :: _, [], h => by simp [beqItems] at h
  | _ :: _, _ :: _, h => by
    simp only [beqItems, Bool.and_eq_true] at h
    rw [eq_of_beq h.1, eq_of_beqItems h.2]

theorem eq_of_beqMembers : ∀ {a b : List (Name × Json)}, beqMembers a b = true → a = b
  | [], b, h => by cases b <;> simp_all [beqMembers]
  | _ :: _, [], h => by simp [beqMembers] at h
  | (_, _) :: _, (_, _) :: _, h => by
    simp only [beqMembers, Bool.and_eq_true, beq_iff_eq] at h
    rw [h.1.1, eq_of_beq h.1.2, eq_of_beqMembers h.2]

end

instance : DecidableEq Json := fun a b =>
  decidable_of_iff (beq a b = true) ⟨eq_of_beq, fun h => h ▸ beq_refl a⟩

end Json

end Omci
