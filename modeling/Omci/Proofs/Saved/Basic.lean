import Omci.Proofs.Ascending
import Omci.Proofs.Text.Numeral
import Omci.Saved.Basic

/-!
# Values that read back as they were written

A value is faithful when what is written for it reads back as the value.
Numbers, texts, lists and enumerations are always so, and their types are
lawful; a record is as faithful as its fields, which is all that has to be
said about it once the lookup of its fields is settled. That lookup is settled
here: a record written under distinct names gives each reader the field it
asks for, and a name that was not written is missing.

Null stands for nothing in a field that may be missing. That only works where
no value is itself written as null, so a lawful type promises that as well.
-/

namespace Omci.Saved

/-- What is written for the value reads back as the value. -/
def Faithful {α : Type} [Saved α] (a : α) : Prop :=
  ofJson? (toJson a) = some a

/-- Every value reads back, and none is written as null. -/
class LawfulSaved (α : Type) [Saved α] : Prop where
  faithful (a : α) : Faithful a
  toJson_ne_null (a : α) : toJson a ≠ .null

export LawfulSaved (faithful toJson_ne_null)

/-! ## Numbers and texts -/

instance : LawfulSaved Bool := ⟨fun _ => rfl, nofun⟩

instance : LawfulSaved String := ⟨fun _ => rfl, nofun⟩

theorem naturalBelow?_int {bound n : Nat} (h : n < bound) :
    naturalBelow? bound (.int n) = some n := by
  have hn : 0 ≤ (n : Int) ∧ (n : Int) < bound := by omega
  rw [naturalBelow?, if_pos hn, Int.toNat_natCast]

theorem faithful_nat {n : Nat} (h : n < UInt64.size) : Faithful n :=
  naturalBelow?_int h

instance : LawfulSaved UInt8 where
  faithful n := by
    show (naturalBelow? UInt8.size (.int n.toNat)).map UInt8.ofNat = some n
    rw [naturalBelow?_int n.toNat_lt_size, Option.map_some, UInt8.ofNat_toNat]
  toJson_ne_null _ := nofun

instance : LawfulSaved UInt16 where
  faithful n := by
    show (naturalBelow? UInt16.size (.int n.toNat)).map UInt16.ofNat = some n
    rw [naturalBelow?_int n.toNat_lt_size, Option.map_some, UInt16.ofNat_toNat]
  toJson_ne_null _ := nofun

instance : LawfulSaved UInt32 where
  faithful n := by
    show (naturalBelow? UInt32.size (.int n.toNat)).map UInt32.ofNat = some n
    rw [naturalBelow?_int n.toNat_lt_size, Option.map_some, UInt32.ofNat_toNat]
  toJson_ne_null _ := nofun

instance : LawfulSaved UInt64 where
  faithful n := by
    show (naturalBelow? UInt64.size (.int n.toNat)).map UInt64.ofNat = some n
    rw [naturalBelow?_int n.toNat_lt_size, Option.map_some, UInt64.ofNat_toNat]
  toJson_ne_null _ := nofun

instance : LawfulSaved Int32 where
  faithful n := by
    have hn : Int32.minValue.toInt ≤ n.toInt ∧ n.toInt ≤ Int32.maxValue.toInt :=
      ⟨n.minValue_le_toInt, n.toInt_le⟩
    show (if _ then _ else _) = _
    rw [if_pos hn, Int32.ofInt_toInt]
  toJson_ne_null _ := nofun

/-! ## Lists, sets and maps -/

theorem listOfJson?_map {α : Type} [Saved α] {items : List α}
    (h : ∀ a ∈ items, Faithful a) :
    listOfJson? (items.map toJson) = some items := by
  induction items with
  | nil => rfl
  | cons a rest ih =>
    have ha : ofJson? (toJson a) = some a := h a List.mem_cons_self
    rw [List.map_cons, listOfJson?, ha, ih fun b hb => h b (List.mem_cons_of_mem _ hb)]

theorem faithful_list {α : Type} [Saved α] {items : List α} (h : ∀ a ∈ items, Faithful a) :
    Faithful items :=
  listOfJson?_map h

instance {α : Type} [Saved α] [LawfulSaved α] : LawfulSaved (List α) :=
  ⟨fun _ => faithful_list fun a _ => faithful a, nofun⟩

instance {α κ : Type} [Saved α] [LawfulSaved α] [LE κ] [LT κ] [DecidableLT κ]
    [Std.LawfulOrderLT κ] [Std.IsLinearOrder κ] {key : α → κ} :
    LawfulSaved (Ascending key) where
  faithful a := by
    have ha : ofJson? (toJson a.toList) = some a.toList := faithful a.toList
    show (ofJson? (toJson a.toList)).map Ascending.ofList = some a
    rw [ha, Option.map_some, Ascending.ofList_toList]
  toJson_ne_null _ := nofun

/-- Reading the members that a list was written to gives back what each of
them stands for. -/
theorem membersOfJson?_map {α β : Type} {item? : Json.Name → Json → Option β}
    {write : α → Json.Name × Json} {value : α → β} {items : List α}
    (h : ∀ a ∈ items, item? (write a).1 (write a).2 = some (value a)) :
    membersOfJson? item? (items.map write) = some (items.map value) := by
  induction items with
  | nil => rfl
  | cons a rest ih =>
    rw [List.map_cons, membersOfJson?, h a List.mem_cons_self,
      ih fun b hb => h b (List.mem_cons_of_mem _ hb), List.map_cons]

theorem exists_of_mem_listOfJson? {α : Type} [Saved α] {items : List Json} {list : List α}
    (h : listOfJson? items = some list) {a : α} (ha : a ∈ list) :
    ∃ item ∈ items, ofJson? item = some a := by
  induction items generalizing list with
  | nil =>
    cases h
    cases ha
  | cons item rest ih =>
    rw [listOfJson?] at h
    split at h
    · next b more hb hmore =>
      cases h
      rcases List.mem_cons.1 ha with rfl | ha
      · exact ⟨item, List.mem_cons_self, hb⟩
      · obtain ⟨other, hother, hread⟩ := ih hmore ha
        exact ⟨other, List.mem_cons_of_mem _ hother, hread⟩
    · cases h

theorem exists_of_mem_membersOfJson? {α : Type} {item? : Json.Name → Json → Option α}
    {members : List (Json.Name × Json)} {list : List α}
    (h : membersOfJson? item? members = some list) {a : α} (ha : a ∈ list) :
    ∃ member ∈ members, item? member.1 member.2 = some a := by
  induction members generalizing list with
  | nil =>
    cases h
    cases ha
  | cons member rest ih =>
    rw [membersOfJson?] at h
    split at h
    · next b more hb hmore =>
      cases h
      rcases List.mem_cons.1 ha with rfl | ha
      · exact ⟨member, List.mem_cons_self, hb⟩
      · obtain ⟨other, hother, hread⟩ := ih hmore ha
        exact ⟨other, List.mem_cons_of_mem _ hother, hread⟩
    · cases h

theorem numberName?_numeral {bound n : Nat} (h : n < bound) :
    numberName? bound (.plain (Text.numeral n)) = some n := by
  simp [numberName?, Text.numeral, Option.filter, h]

theorem lt_of_numberName? {bound n : Nat} {name : Json.Name}
    (h : numberName? bound name = some n) : n < bound := by
  cases name with
  | plain text =>
    have hn := (Option.filter_eq_some_iff.1 h).2
    simp only [Bool.and_eq_true, decide_eq_true_eq] at hn
    exact hn.1
  | escaped _ | unreadable => cases h

/-! ## Enumerations -/

/-- The name of a value leads back to the value where the names differ. -/
theorem variant?_name {α : Type} {all : List α} {name : α → String} {a : α} (ha : a ∈ all)
    (inj : ∀ b ∈ all, name b = name a → b = a) :
    variant? all name (.str (name a)) = some a := by
  show (all.find? fun b => name b = name a) = some a
  induction all with
  | nil => cases ha
  | cons b rest ih =>
    by_cases hb : name b = name a
    · rw [List.find?_cons_of_pos (by simpa using hb), inj b List.mem_cons_self hb]
    · rw [List.find?_cons_of_neg (by simpa using hb)]
      rcases List.mem_cons.1 ha with rfl | ha
      · exact absurd rfl hb
      · exact ih ha fun c hc => inj c (List.mem_cons_of_mem _ hc)

/-! ## Records -/

/-- The members of a record, each value under the name of its field. -/
def membersOf (names : List String) (values : List Json) : List (Json.Name × Json) :=
  List.zipWith (fun name value => (.plain name, value)) names values

theorem exists_of_mem_membersOf {names : List String} {values : List Json}
    {entry : Json.Name × Json} (h : entry ∈ membersOf names values) :
    ∃ name ∈ names, ∃ value, entry = (.plain name, value) := by
  obtain ⟨i, hi, rfl⟩ := List.mem_iff_getElem.1 h
  simp only [membersOf, List.length_zipWith] at hi
  exact ⟨names[i], List.getElem_mem _, values[i], List.getElem_zipWith⟩

/-- None of the members has the name. -/
def Lacks (members : List (Json.Name × Json)) (name : String) : Prop :=
  ∀ entry ∈ members, entry.1.text? ≠ some name

theorem lacks_membersOf {names : List String} {values : List Json} {name : String}
    (h : name ∉ names) : Lacks (membersOf names values) name := by
  intro entry hentry heq
  obtain ⟨other, hother, _, rfl⟩ := exists_of_mem_membersOf hentry
  obtain rfl : other = name := Option.some.inj heq
  exact h hother

theorem filter_eq_nil_of_lacks {members : List (Json.Name × Json)} {name : String}
    (h : Lacks members name) :
    (members.filter fun entry => entry.1.text? = some name) = [] :=
  List.filter_eq_nil_iff.2 fun entry hentry heq => h entry hentry (of_decide_eq_true heq)

theorem memberSlot_cons_self {members : List (Json.Name × Json)} {name : String}
    {value : Json} (h : Lacks members name) :
    memberSlot ((.plain name, value) :: members) name = some (.given value) := by
  rw [memberSlot, List.filter_cons_of_pos (by simp [Json.Name.text?]),
    filter_eq_nil_of_lacks h]

theorem memberSlot_cons_ne {members : List (Json.Name × Json)} {name other : String}
    {value : Json} (h : other ≠ name) :
    memberSlot ((.plain other, value) :: members) name = memberSlot members name := by
  rw [memberSlot, List.filter_cons_of_neg (by simpa [Json.Name.text?] using h), memberSlot]

theorem memberSlots_cons_ne {members : List (Json.Name × Json)} {names : List String}
    {other : String} {value : Json} (h : other ∉ names) :
    memberSlots ((.plain other, value) :: members) names = memberSlots members names := by
  induction names with
  | nil => rfl
  | cons name rest ih =>
    have hne : other ≠ name := fun heq => h (List.mem_cons.2 (.inl heq))
    rw [memberSlots, memberSlots, memberSlot_cons_ne hne,
      ih fun hmem => h (List.mem_cons_of_mem _ hmem)]

theorem memberSlots_nil (names : List String) :
    memberSlots [] names = some (names.map fun _ => .omitted) := by
  induction names with
  | nil => rfl
  | cons name rest ih => rw [memberSlots, ih]; rfl

/-- A record that was written up to some field gives those fields and misses
the others. -/
theorem memberSlots_membersOf {written missing : List String} {values : List Json}
    (hnames : (written ++ missing).Nodup) (hlength : written.length = values.length) :
    memberSlots (membersOf written values) (written ++ missing) =
      some (values.map .given ++ missing.map fun _ => .omitted) := by
  induction written generalizing values with
  | nil =>
    obtain rfl : values = [] := List.eq_nil_of_length_eq_zero hlength.symm
    exact memberSlots_nil missing
  | cons name rest ih =>
    obtain ⟨value, values, rfl⟩ : ∃ value more, values = value :: more :=
      List.exists_cons_of_length_eq_add_one hlength.symm
    obtain ⟨hname, hrest⟩ : name ∉ rest ++ missing ∧ (rest ++ missing).Nodup :=
      List.nodup_cons.1 hnames
    have hself : Lacks (membersOf rest values) name :=
      lacks_membersOf fun hmem => hname (List.mem_append_left _ hmem)
    show memberSlots ((.plain name, value) :: membersOf rest values)
      (name :: (rest ++ missing)) = _
    rw [memberSlots, memberSlot_cons_self hself, memberSlots_cons_ne hname,
      ih hrest (Nat.succ.inj hlength)]
    rfl

theorem isSome_text?_membersOf (names : List String) (values : List Json) :
    ((membersOf names values).all fun entry => entry.1.text?.isSome) = true := by
  rw [List.all_eq_true]
  intro entry hentry
  obtain ⟨_, _, _, rfl⟩ := exists_of_mem_membersOf hentry
  rfl

theorem bind_fields_obj_upTo {α : Type} (written missing : List String) (values : List Json)
    (hnames : (written ++ missing).Nodup) (hlength : written.length = values.length)
    (read? : List Slot → Option α) :
    (fields (written ++ missing) (.obj (membersOf written values)) >>= read?) =
      read? (values.map .given ++ missing.map fun _ => .omitted) := by
  rw [fields, if_pos (isSome_text?_membersOf _ _), memberSlots_membersOf hnames hlength]
  rfl

/-- A reader of a record gets the values that were written for its fields. -/
theorem bind_fields_obj {α : Type} (names : List String) (values : List Json)
    (hnames : names.Nodup) (hlength : names.length = values.length)
    (read? : List Slot → Option α) :
    (fields names (.obj (membersOf names values)) >>= read?) =
      read? (values.map .given) := by
  have h := bind_fields_obj_upTo names [] values (by rwa [List.append_nil]) hlength read?
  rwa [List.append_nil, List.map_nil, List.append_nil] at h

namespace Slot

variable {α : Type} [Saved α]

theorem required_given_of_faithful {a : α} (h : Faithful a) :
    (given (toJson a)).required = some a := h

theorem orElse_given_of_faithful {a b : α} (h : Faithful a) :
    (given (toJson a)).orElse b = some a := h

theorem orNone_given_of_faithful {o : Option α}
    (h : ∀ a ∈ o, Faithful a ∧ toJson a ≠ .null) :
    (given (nullOr o)).orNone = some o := by
  cases o with
  | none => rfl
  | some a =>
    obtain ⟨hread, hnull⟩ := h a rfl
    have hread : ofJson? (toJson a) = some a := hread
    show (given (toJson a)).orNone = some (some a)
    unfold orNone
    split
    · next hgiven => exact absurd (Slot.given.inj hgiven) hnull
    · next value _ hgiven =>
      obtain rfl := Slot.given.inj hgiven
      rw [hread, Option.map_some]
    · next hgiven => exact absurd rfl (hgiven (toJson a))

theorem nullable_given_eq_orNone (value : Json) :
    ((given value).nullable : Option (Option α)) = (given value).orNone := by
  cases value <;> rfl

theorem nullable_given_of_faithful {o : Option α}
    (h : ∀ a ∈ o, Faithful a ∧ toJson a ≠ .null) :
    (given (nullOr o)).nullable = some o := by
  rw [nullable_given_eq_orNone, orNone_given_of_faithful h]

variable [LawfulSaved α]

@[simp] theorem required_given (a : α) : (given (toJson a)).required = some a :=
  required_given_of_faithful (faithful a)

@[simp] theorem orElse_given (a b : α) : (given (toJson a)).orElse b = some a :=
  orElse_given_of_faithful (faithful a)

@[simp] theorem nullable_given (o : Option α) : (given (nullOr o)).nullable = some o :=
  nullable_given_of_faithful fun a _ => ⟨faithful a, toJson_ne_null a⟩

@[simp] theorem orNone_given (o : Option α) : (given (nullOr o)).orNone = some o :=
  orNone_given_of_faithful fun a _ => ⟨faithful a, toJson_ne_null a⟩

end Slot

end Omci.Saved
