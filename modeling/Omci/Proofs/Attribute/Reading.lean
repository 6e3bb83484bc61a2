import Omci.Proofs.Ascending
import Omci.Proofs.Attribute.Names
import Omci.Proofs.Attribute.Settings
import Omci.Proofs.Size.Spellings
import Omci.Proofs.Text.Casing
import Omci.Proofs.Text.Numeral
import Omci.Proofs.Text.Parens

/-!
# Settings read back as they were written

An attribute is described by three items in parentheses: its accesses, its flag
and its size. Each reader recognises the item that was written for it, and the
readers that are asked before it do not. Numbers are what keeps them apart: a
size begins with a digit, and no keyword does.
-/

namespace Omci

open Text

/-! ## Accesses -/

namespace Access

/-- The word that stands for the access in a list. -/
def keyword : Access → String
  | read => "r"
  | write => "w"
  | setByCreate => "setbycreate"

/-- A list of accesses, by their keywords. -/
def written (accesses : AccessSet) : List Char :=
  join [','] (accesses.toList.map fun access => access.keyword.toList)

/-- The ascending lists of accesses. -/
def ascendingLists : List (List Access) := [
  [.read], [.write], [.setByCreate], [.read, .write], [.read, .setByCreate],
  [.write, .setByCreate], [.read, .write, .setByCreate]]

theorem mem_ascendingLists {accesses : List Access} (hne : accesses ≠ [])
    (h : accesses.Pairwise fun a b => a.rank < b.rank) : accesses ∈ ascendingLists := by
  rcases accesses with _ | ⟨a, _ | ⟨b, _ | ⟨c, _ | ⟨d, rest⟩⟩⟩⟩
  · exact absurd rfl hne
  · cases a <;> decide
  · revert h
    cases a <;> cases b <;> decide
  · revert h
    cases a <;> cases b <;> cases c <;> decide
  · -- four ranks would have to ascend below three
    have hd : d.rank ≤ 2 := by cases d <;> decide
    simp only [List.pairwise_cons, List.mem_cons] at h
    have hab := h.1 b (.inl rfl)
    have hbc := h.2.1 c (.inl rfl)
    have hcd := h.2.2.1 d (.inl rfl)
    omega

theorem toList_mem_ascendingLists {accesses : AccessSet} (hne : accesses.isEmpty = false) :
    accesses.toList ∈ ascendingLists := by
  refine mem_ascendingLists (fun hnil => ?_) accesses.ascending
  rw [Ascending.isEmpty, hnil] at hne
  cases hne

theorem read?_written {accesses : AccessSet} (hne : accesses.isEmpty = false) :
    Access.read? (written accesses) = some accesses := by
  have hall : ∀ list ∈ ascendingLists,
      Access.read? (join [','] (list.map fun access => access.keyword.toList)) =
        some (Ascending.ofList list) := by decide
  rw [written, hall _ (toList_mem_ascendingLists hne), Ascending.ofList_toList]

theorem paren_not_mem_written {accesses : AccessSet} (hne : accesses.isEmpty = false) :
    ')' ∉ written accesses := by
  have hall : ∀ list ∈ ascendingLists,
      ')' ∉ join [','] (list.map fun access => access.keyword.toList) := by decide
  exact hall _ (toList_mem_ascendingLists hne)

theorem allLowered_written (accesses : AccessSet) :
    allLowered (written accesses) = true := by
  refine allLowered_join (by decide) fun piece hpiece => ?_
  obtain ⟨access, _, rfl⟩ := List.mem_map.1 hpiece
  cases access <;> decide

/-- No list of accesses is taken for a flag, or for a value of zeros. -/
theorem word_written {accesses : AccessSet} (hne : accesses.isEmpty = false) :
    lower (trim (written accesses)) ∉
      ["mandatory".toList, "optional".toList, "all zero bytes".toList] := by
  have hall : ∀ list ∈ ascendingLists,
      lower (trim (join [','] (list.map fun access => access.keyword.toList))) ∉
        ["mandatory".toList, "optional".toList, "all zero bytes".toList] := by decide
  exact hall _ (toList_mem_ascendingLists hne)

end Access

/-! ## Sizes -/

namespace Size

/-- A number of octets. -/
def written (octets : Nat) : List Char :=
  decimal octets ++ " bytes".toList

theorem allLowered_written (octets : Nat) : allLowered (written octets) = true :=
  allLowered_append (allLowered_decimal octets) (by decide)

/-- A size begins with a digit. -/
theorem exists_written_eq_cons (octets : Nat) :
    ∃ c rest, written octets = c :: rest ∧ c.isDigit = true := by
  obtain ⟨c, rest, hn, hc⟩ := exists_decimal_eq_cons octets
  exact ⟨c, rest ++ " bytes".toList, by rw [written, hn]; rfl, hc⟩

theorem written_ne {octets : Nat} {word : List Char}
    (h : word.head?.any Char.isDigit = false) :
    written octets ≠ word := by
  obtain ⟨c, rest, hwritten, hc⟩ := exists_written_eq_cons octets
  rintro rfl
  rw [hwritten] at h
  exact Bool.false_ne_true (h.symm.trans hc)

theorem trim_written (octets : Nat) : trim (written octets) = written octets := by
  have hunit : " bytes".toList.getLast?.any isBlank = false := by decide
  refine IsTrimmed.trim ⟨?_, ?_⟩
  · obtain ⟨c, rest, hwritten, hc⟩ := exists_written_eq_cons octets
    rw [hwritten]
    exact not_isBlank_of_isDigit hc
  · rw [written, getLast?_append_of_ne_nil _ (by decide)]
    exact hunit

theorem read?_written {octets : Nat} (h : 2 * octets < UInt32.size) :
    Size.read? (written octets) = some (.ofOctets (Int32.ofNat octets)) := by
  have hsize : UInt32.size = 4294967296 := rfl
  exact read?_counted (by omega) (by decide) (.inr (by decide))

theorem not_mem_written {c : Char} (hdigit : c.isDigit = false)
    (hunit : c ∉ " bytes".toList) (octets : Nat) : c ∉ written octets := by
  intro hc
  rcases List.mem_append.1 hc with hc | hc
  · exact not_mem_decimal hdigit octets hc
  · exact hunit hc

theorem lower_trim_written (octets : Nat) :
    lower (trim (written octets)) = written octets := by
  rw [trim_written, lower_eq_self (allLowered_written octets)]

theorem tokens_written (octets : Nat) :
    Access.tokens (written octets) = [written octets] := by
  -- there is no hyphen to drop, no synonym to follow and no comma to cut at
  have hkept : (written octets).filter (· ≠ '-') = written octets := by
    refine List.filter_eq_self.2 fun c hc => decide_eq_true ?_
    rintro rfl
    exact not_mem_written (by decide) (by decide) octets hc
  have hsynonym :
      (Access.synonyms.find? fun entry => entry.1.toList = written octets) = none := by
    refine List.find?_eq_none.2 fun entry hentry => ?_
    have hhead : ∀ entry ∈ Access.synonyms,
        entry.1.toList.head?.any Char.isDigit = false := by
      decide
    rw [decide_eq_true_eq]
    exact (written_ne (hhead entry hentry)).symm
  have hcomma : ∀ c ∈ written octets, decide (c = ',') = false := by
    refine fun c hc => decide_eq_false ?_
    rintro rfl
    exact not_mem_written (by decide) (by decide) octets hc
  have hsplit : split ',' (written octets) = [written octets] :=
    splitWhere_of_forall_not hcomma
  have hne : (written octets).isEmpty = false := by
    obtain ⟨c, rest, hwritten, _⟩ := exists_written_eq_cons octets
    rw [hwritten]
    rfl
  unfold Access.tokens
  dsimp only
  rw [hkept, lower_trim_written, hsynonym]
  dsimp only
  rw [hsplit, List.map_singleton, trim_written,
    List.filter_cons_of_pos (by rw [hne]; rfl), List.filter_nil]

/-- A size is not taken for a list of accesses. -/
theorem access_written (octets : Nat) : Access.read? (written octets) = none := by
  have hkeyword : Access.ofKeyword? (written octets) = none := by
    rw [Access.ofKeyword?, if_neg (written_ne (by decide)), if_neg (written_ne (by decide)),
      if_neg (written_ne (by decide))]
  unfold Access.read?
  rw [tokens_written, List.any_cons, hkeyword]
  rfl

end Size

namespace Attribute

/-! ## Three items -/

/-- The flag of an attribute. -/
def flag : Bool → List Char
  | true => "optional".toList
  | false => "mandatory".toList

theorem withItem_access (a : Attribute) {access : AccessSet}
    (hne : access.isEmpty = false) :
    a.withItem (Access.written access) = a.withAccess access := by
  have hword := Access.word_written hne
  simp only [List.mem_cons, not_or] at hword
  rw [withItem, if_neg hword.1, if_neg hword.2.1, Access.read?_written hne]

theorem withItem_of_mandatory (a : Attribute) {item : List Char}
    (h : lower (trim item) = "mandatory".toList) :
    a.withItem item = a.withOptional false := by
  rw [withItem, h, if_pos rfl]

theorem withItem_of_optional (a : Attribute) {item : List Char}
    (h : lower (trim item) = "optional".toList) :
    a.withItem item = a.withOptional true := by
  rw [withItem, h, if_neg (by decide), if_pos rfl]

theorem withItem_flag (a : Attribute) (optional : Bool) :
    a.withItem (flag optional) = a.withOptional optional := by
  cases optional with
  | true => exact withItem_of_optional a (by decide)
  | false => exact withItem_of_mandatory a (by decide)

theorem withItem_size (a : Attribute) {octets : Nat} (h : 2 * octets < UInt32.size) :
    a.withItem (Size.written octets) =
      { a with size := some (.ofOctets (Int32.ofNat octets)) } := by
  rw [withItem, Size.lower_trim_written, if_neg (Size.written_ne (by decide)),
    if_neg (Size.written_ne (by decide)), Size.access_written, Size.read?_written h]

theorem lower_trim_flag_ne (optional : Bool) :
    lower (trim (flag optional)) ≠ "all zero bytes".toList := by
  cases optional <;> decide

theorem withItems_written (a : Attribute) {access : AccessSet}
    (hne : access.isEmpty = false) (optional : Bool) {octets : Nat}
    (h : 2 * octets < UInt32.size) :
    a.withItems [Access.written access, flag optional, Size.written octets] =
      { (a.withAccess access).withOptional optional with
        size := some (.ofOctets (Int32.ofNat octets)) } := by
  have hword := Access.word_written hne
  simp only [List.mem_cons, not_or] at hword
  have hsize : lower (trim (Size.written octets)) ≠ "all zero bytes".toList := by
    rw [Size.lower_trim_written]
    exact Size.written_ne (by decide)
  rw [withItems, if_neg hword.2.2.1, withItem_access a hne, withItems,
    if_neg (lower_trim_flag_ne optional), withItem_flag, withItems, if_neg hsize,
    withItem_size _ h, withItems]

end Attribute

/-! ## One paragraph -/

/-- What one paragraph says of an attribute. -/
structure AttributeRecord where
  name : String
  access : AccessSet
  optional : Bool
  octets : Nat
  name_eq : Attribute.nameOf name.toList = name.toList
  access_ne : access.isEmpty = false
  octets_lt : 2 * octets < UInt32.size

namespace AttributeRecord

/-- The bold text that begins the attribute. -/
def lead (record : AttributeRecord) : List Char :=
  record.name.toList ++ [':']

def inParens (item : List Char) : List Char :=
  ' ' :: '(' :: (item ++ [')'])

def settings (record : AttributeRecord) : List Char :=
  inParens (Access.written record.access) ++ inParens (Attribute.flag record.optional) ++
    inParens (Size.written record.octets)

def paragraph (record : AttributeRecord) (number : UInt64) : Paragraph where
  index := number
  style := "Attribute"
  text := String.ofList (record.lead ++ record.settings)
  runs := [⟨String.ofList record.lead, true⟩, ⟨String.ofList record.settings, false⟩]

/-- What the name alone says of the attribute. -/
def begun (record : AttributeRecord) (number : UInt64) : Attribute where
  name := record.name
  description := [number]
  deprecated := startsWith "deprecated".toList (lower record.name.toList)

/-- The attribute, apart from its place in the list. -/
def toAttribute (record : AttributeRecord) (number : UInt64) : Attribute where
  name := record.name
  description := [number]
  access := record.access
  optional := some record.optional
  deprecated := startsWith "deprecated".toList (lower record.name.toList)
  size := some (.ofOctets (Int32.ofNat record.octets))

variable (record : AttributeRecord) (number : UInt64)

theorem not_isBlank_head : record.name.toList.head?.any isBlank = false := by
  rw [← record.name_eq]
  exact (isTrimmed_collapse _).1

theorem paren_not_mem_name : '(' ∉ record.name.toList := by
  rw [← record.name_eq]
  exact Attribute.not_mem_nameOf (by decide)

theorem trim_lead : trim record.lead = record.lead := by
  refine IsTrimmed.trim ⟨any_head?_append record.not_isBlank_head (by decide), ?_⟩
  rw [lead, List.getLast?_concat]
  decide

theorem nameOf_lead : Attribute.nameOf record.lead = record.name.toList := by
  rw [lead, Attribute.nameOf_append_colon, record.name_eq]

theorem ofParagraph?_paragraph :
    Attribute.ofParagraph? (record.paragraph number) = some (record.begun number) := by
  have hstarts : Attribute.startsIn (record.paragraph number) = true := by
    have hlist : lower "Attribute".toList ≠ "attribute list".toList := by decide
    have hfollower : lower "Attribute".toList ≠ "attribute follower".toList := by decide
    rw [Attribute.startsIn]
    dsimp only [paragraph]
    rw [if_neg hlist, if_neg hfollower]
    rfl
  have hbold : (record.paragraph number).boldText = record.lead := by
    have htrim := record.trim_lead
    simp only [Paragraph.boldText, paragraph]
    simp [join, htrim]
  rw [Attribute.ofParagraph?, if_pos hstarts, hbold]
  dsimp only
  rw [nameOf_lead, String.ofList_toList]
  rfl

theorem allLowered_inParens {item : List Char} (h : allLowered item = true) :
    allLowered (inParens item) = true := by
  have hopen : allLowered [' ', '('] = true := by decide
  have hclose : allLowered [')'] = true := by decide
  show allLowered ([' ', '('] ++ (item ++ [')'])) = true
  exact allLowered_append hopen (allLowered_append h hclose)

theorem toAscii_settings : toAscii record.settings = record.settings := by
  have hflag : allLowered (Attribute.flag record.optional) = true := by
    cases record.optional <;> decide
  refine toAscii_eq_self (allLowered_append (allLowered_append ?_ ?_) ?_)
  · exact allLowered_inParens (Access.allLowered_written record.access)
  · exact allLowered_inParens hflag
  · exact allLowered_inParens (Size.allLowered_written record.octets)

theorem parenItems_settings {s : List Char} (hs : '(' ∉ s) :
    parenItems (s ++ record.settings) = [Access.written record.access,
      Attribute.flag record.optional, Size.written record.octets] := by
  have hopen : ∀ {t : List Char}, '(' ∉ t → '(' ∉ t ++ [' '] := by
    intro t ht hmem
    rcases List.mem_append.1 hmem with hmem | hmem
    · exact ht hmem
    · exact absurd hmem (by decide)
  have hgroup : ∀ {t item : List Char}, '(' ∉ t → ')' ∉ item → ∀ rest,
      parenItems (t ++ (inParens item ++ rest)) = item :: parenItems rest := by
    intro t item ht hitem rest
    have hassoc : t ++ (inParens item ++ rest) =
        (t ++ [' ']) ++ '(' :: (item ++ ')' :: rest) := by
      simp [inParens]
    rw [hassoc, parenItems_group (hopen ht) hitem]
  have hflag : ')' ∉ Attribute.flag record.optional := by
    cases record.optional <;> decide
  have hsize : ')' ∉ Size.written record.octets :=
    Size.not_mem_written (by decide) (by decide) record.octets
  rw [settings, List.append_assoc,
    hgroup hs (Access.paren_not_mem_written record.access_ne)]
  have h₂ := hgroup (t := []) (by decide) hflag (inParens (Size.written record.octets))
  have h₃ := hgroup (t := []) (by decide) hsize []
  rw [List.nil_append] at h₂ h₃
  rw [List.append_nil] at h₃
  rw [h₂, h₃, parenItems]

theorem asciiText_paragraph :
    (record.paragraph number).asciiText = toAscii record.lead ++ record.settings := by
  rw [Paragraph.asciiText, paragraph, String.toList_ofList, toAscii_append,
    toAscii_settings]

/-- The three items of the paragraph, in order. -/
theorem parenItems_paragraph :
    parenItems (trim (record.paragraph number).asciiText) = [Access.written record.access,
      Attribute.flag record.optional, Size.written record.octets] := by
  have hlead : '(' ∉ record.lead := by
    intro hparen
    rcases List.mem_append.1 hparen with hparen | hparen
    · exact record.paren_not_mem_name hparen
    · exact absurd hparen (by decide)
  have hend : ∃ s, toAscii record.lead ++ record.settings = s ++ [')'] := by
    refine ⟨toAscii record.lead ++ (inParens (Access.written record.access) ++
      inParens (Attribute.flag record.optional) ++ ' ' :: '(' ::
      Size.written record.octets), ?_⟩
    simp [settings, inParens]
  obtain ⟨s, hs⟩ := hend
  rw [asciiText_paragraph, hs, parenItems_trim, ← hs,
    record.parenItems_settings (not_mem_toAscii (by decide) (by decide) hlead)]

theorem trim_asciiText_ne_nil : trim (record.paragraph number).asciiText ≠ [] := by
  intro hnil
  have hitems := record.parenItems_paragraph number
  rw [hnil] at hitems
  cases hitems

theorem withSettings_paragraph (a : Attribute) :
    a.withSettings (record.paragraph number) =
      { ((a.withDescription number).withAccess record.access).withOptional record.optional
        with size := some (.ofOctets (Int32.ofNat record.octets)) } := by
  have htext : (trim (record.paragraph number).asciiText).isEmpty = false :=
    List.isEmpty_eq_false_iff.2 (record.trim_asciiText_ne_nil number)
  unfold Attribute.withSettings
  dsimp only
  rw [htext, record.parenItems_paragraph number]
  exact Attribute.withItems_written _ record.access_ne record.optional record.octets_lt

theorem withSettings_begun (index : Nat) :
    { record.begun number with index := index }.withSettings (record.paragraph number) =
      { record.toAttribute number with index := index } := by
  have hmem : number ∈ { record.begun number with index := index }.description :=
    List.mem_singleton.2 rfl
  rw [withSettings_paragraph, Attribute.withDescription_of_mem hmem]
  rfl

end AttributeRecord

end Omci
