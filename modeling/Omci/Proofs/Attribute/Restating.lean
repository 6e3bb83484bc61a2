import Omci.Proofs.Ascending
import Omci.Proofs.Attribute.Settings
import Omci.Proofs.Text.Blank

/-!
# Settings said again

Every paragraph that describes an attribute may give it settings, so that the same
thing can be said twice, and not always in the same way. The flag and the accesses
that were said first stay, and of the sizes the one that is said last holds. `Takes`
says this of a list of settings, and it goes from a list and the next one to both, so
it holds for a paragraph as for any number of them. A paragraph that is read twice in
a row does nothing the second time.
-/

namespace Omci

open Text

theorem Access.isEmpty_of_read? {s : List Char} {access : AccessSet}
    (h : Access.read? s = some access) :
    access.isEmpty = false := by
  unfold Access.read? at h
  split at h
  · next hany =>
    cases h
    obtain ⟨token, htoken, hkeyword⟩ := List.any_eq_true.1 hany
    have hsome : (ofToken? token).isSome = true := by
      unfold ofToken?
      split
      · rfl
      · exact hkeyword
    obtain ⟨given, hgiven⟩ := Option.isSome_iff_exists.1 hsome
    have hhas : (Ascending.ofList ((tokens s).filterMap ofToken?) : AccessSet).has
        given.rank = true := by
      rw [Ascending.has_ofList]
      have hlisted := List.mem_filterMap.2 ⟨token, htoken, hgiven⟩
      exact List.any_eq_true.2 ⟨given, hlisted, decide_eq_true rfl⟩
    obtain ⟨other, hother, -⟩ := List.any_eq_true.1 hhas
    exact List.isEmpty_eq_false_iff.2 (List.ne_nil_of_mem hother)
  · cases h

namespace Attribute

/-! ## Settings -/

/-- What an item in parentheses can say about an attribute. -/
inductive Setting where
  | flag (optional : Bool)
  | access (access : AccessSet)
  | size (size : Size)

/-- What the item says: a flag, a list of accesses or a size, tried in this order. -/
def setting? (item : List Char) : Option Setting :=
  if lower (trim item) = "mandatory".toList then
    some (.flag false)
  else if lower (trim item) = "optional".toList then
    some (.flag true)
  else
    ((Access.read? item).map .access).or ((Size.read? item).map .size)

def withSetting (a : Attribute) : Setting → Attribute
  | .flag optional => a.withOptional optional
  | .access access => a.withAccess access
  | .size size => { a with size := some size }

theorem withItem_eq (a : Attribute) (item : List Char) :
    a.withItem item = (setting? item).elim a a.withSetting := by
  unfold withItem setting?
  dsimp only
  split
  · rfl
  · split
    · rfl
    · cases Access.read? item with
      | some access => rfl
      | none =>
        cases Size.read? item with
        | some size => rfl
        | none => rfl

/-- What the items say, up to the one that speaks of a value of zeros. -/
def settingsOf (items : List (List Char)) : List Setting :=
  (items.takeWhile fun item =>
    lower (trim item) ≠ "all zero bytes".toList).filterMap setting?

theorem withItems_eq (a : Attribute) (items : List (List Char)) :
    a.withItems items = (settingsOf items).foldl withSetting a := by
  unfold settingsOf
  induction items generalizing a with
  | nil => rfl
  | cons item rest ih =>
    rw [withItems]
    split
    · next hzeros =>
      have hstop : ¬ decide (lower (trim item) ≠ "all zero bytes".toList) = true :=
        mt of_decide_eq_true fun hother => hother hzeros
      rw [List.takeWhile_cons, if_neg hstop]
      rfl
    · next hother =>
      rw [List.takeWhile_cons, if_pos (decide_eq_true hother), ih, withItem_eq,
        List.filterMap_cons]
      cases setting? item with
      | none => rfl
      | some setting => rfl

/-- The items in parentheses of a paragraph. -/
def itemsOf (p : Paragraph) : List (List Char) :=
  parenItems (trim p.asciiText)

/-- The settings of a paragraph; fewer than three items are none. -/
def settings (p : Paragraph) : List Setting :=
  if (itemsOf p).length < 3 then [] else settingsOf (itemsOf p)

/-- The attribute with the number of a paragraph that is not blank in its description. -/
def described (a : Attribute) (p : Paragraph) : Attribute :=
  if allBlank p.asciiText then a else a.withDescription p.index

theorem withSettings_eq (a : Attribute) (p : Paragraph) :
    a.withSettings p = (settings p).foldl withSetting (a.described p) := by
  unfold withSettings settings itemsOf described
  dsimp only
  rw [isEmpty_trim]
  split
  · next hblank =>
    have hempty : trim p.asciiText = [] :=
      List.isEmpty_iff.1 ((isEmpty_trim _).trans hblank)
    rw [hempty]
    rfl
  · split
    · rfl
    · exact withItems_eq _ _

def flags (settings : List Setting) : List Bool :=
  settings.filterMap fun
    | .flag optional => some optional
    | _ => none

def accesses (settings : List Setting) : List AccessSet :=
  settings.filterMap fun
    | .access access => some access
    | _ => none

def sizes (settings : List Setting) : List Size :=
  settings.filterMap fun
    | .size size => some size
    | _ => none

/-! ## First and last -/

/-- Taking the settings makes the one attribute the other, apart from the description:
the first flag and the first accesses are taken where there were none, and the last
size in any case. -/
structure Takes (a : Attribute) (settings : List Setting) (b : Attribute) : Prop where
  agrees : a.AgreesButSettings b
  /-- Without an access there would be nothing to keep the next ones out. -/
  full : ∀ access ∈ accesses settings, access.isEmpty = false
  optional : b.optional = a.optional.or (flags settings).head?
  access : b.access =
    if a.access.isEmpty then (accesses settings).head?.getD ∅ else a.access
  size : b.size = (sizes settings).getLast?.or a.size

theorem eq_ite_isEmpty (access : AccessSet) :
    access = if access.isEmpty then ∅ else access := by
  split
  · next hempty => exact Ascending.ext (List.isEmpty_iff.1 hempty)
  · rfl

namespace Takes

variable {a b c : Attribute} {s t : List Setting}

theorem of_eq (hagrees : a.AgreesButSettings b) (hoptional : b.optional = a.optional)
    (haccess : b.access = a.access) (hsize : b.size = a.size) : Takes a [] b where
  agrees := hagrees
  full := nofun
  optional := by rw [hoptional, flags, List.filterMap_nil, List.head?_nil, Option.or_none]
  access := haccess.trans (eq_ite_isEmpty _)
  size := hsize

theorem trans (hab : Takes a s b) (hbc : Takes b t c) : Takes a (s ++ t) c where
  agrees := hab.agrees.trans hbc.agrees
  full access haccess := by
    rw [accesses, List.filterMap_append, List.mem_append] at haccess
    exact haccess.elim (hab.full access) (hbc.full access)
  optional := by
    rw [hbc.optional, hab.optional, flags, flags, flags, List.filterMap_append,
      List.head?_append, Option.or_assoc]
  access := by
    have happend : accesses (s ++ t) = accesses s ++ accesses t := List.filterMap_append
    rw [hbc.access, hab.access]
    by_cases hempty : a.access.isEmpty = true
    · rw [if_pos hempty, if_pos hempty, happend]
      cases hs : accesses s with
      | nil => rfl
      | cons access rest =>
        have hfull : access.isEmpty = false := hab.full access (hs ▸ List.mem_cons_self)
        rw [List.cons_append, List.head?_cons, List.head?_cons, Option.getD_some,
          if_neg (Bool.eq_false_iff.1 hfull)]
    · rw [if_neg hempty, if_neg hempty, if_neg hempty]
  size := by
    rw [hbc.size, hab.size, sizes, sizes, sizes, List.filterMap_append,
      List.getLast?_append, Option.or_assoc]

/-- What has been taken is not taken again. -/
theorem eq_of_takes (hab : Takes a s b) (hbc : Takes b s c)
    (hdescription : c.description = b.description) :
    c = b := by
  have hoptional : c.optional = b.optional := by
    rw [hbc.optional, hab.optional, Option.or_assoc, Option.or_self]
  have haccess : c.access = b.access := by
    rw [hbc.access]
    split
    · next hempty =>
      have htaken := hab.access
      split at htaken
      · exact htaken.symm
      · next hfull => exact absurd (htaken ▸ hempty) hfull
    · rfl
  have hsize : c.size = b.size := by
    rw [hbc.size, hab.size, ← Option.or_assoc, Option.or_self]
  have hagrees := hbc.agrees
  rw [AgreesButSettings, hdescription, hoptional, haccess, hsize] at hagrees
  exact hagrees

end Takes

/-! ## What a paragraph says -/

theorem takes_withSetting (a : Attribute) {setting : Setting}
    (hfull : ∀ access ∈ accesses [setting], access.isEmpty = false) :
    Takes a [setting] (a.withSetting setting) := by
  cases setting with
  | flag optional => exact ⟨rfl, hfull, rfl, eq_ite_isEmpty _, rfl⟩
  | access access =>
    have hread : a.withAccess access =
        { a with access := if a.access.isEmpty then access else a.access } := by
      unfold withAccess
      split <;> rfl
    rw [withSetting, hread]
    exact ⟨rfl, hfull, Option.or_none.symm, rfl, rfl⟩
  | size size => exact ⟨rfl, hfull, Option.or_none.symm, eq_ite_isEmpty _, rfl⟩

theorem takes_foldl_withSetting (a : Attribute) {settings : List Setting}
    (hfull : ∀ access ∈ accesses settings, access.isEmpty = false) :
    Takes a settings (settings.foldl withSetting a) := by
  induction settings generalizing a with
  | nil => exact .of_eq (.refl a) rfl rfl rfl
  | cons setting rest ih =>
    have happend : accesses (setting :: rest) = accesses [setting] ++ accesses rest :=
      List.filterMap_append (l := [setting])
    rw [happend] at hfull
    have hfirst := a.takes_withSetting fun access haccess =>
      hfull access (List.mem_append_left _ haccess)
    exact hfirst.trans (ih _ fun access haccess =>
      hfull access (List.mem_append_right _ haccess))

theorem exists_of_mem_settings {p : Paragraph} {setting : Setting}
    (h : setting ∈ settings p) :
    ∃ item ∈ itemsOf p, setting? item = some setting := by
  unfold settings at h
  split at h
  · cases h
  · obtain ⟨item, hitem, hsays⟩ := List.mem_filterMap.1 h
    exact ⟨item, List.takeWhile_subset _ hitem, hsays⟩

theorem mem_accesses {settings : List Setting} {access : AccessSet} :
    access ∈ accesses settings ↔ .access access ∈ settings := by
  rw [accesses, List.mem_filterMap]
  constructor
  · rintro ⟨setting, hsetting, hsays⟩
    cases setting <;> cases hsays
    exact hsetting
  · exact fun h => ⟨_, h, rfl⟩

theorem mem_sizes {settings : List Setting} {size : Size} :
    size ∈ sizes settings ↔ .size size ∈ settings := by
  rw [sizes, List.mem_filterMap]
  constructor
  · rintro ⟨setting, hsetting, hsays⟩
    cases setting <;> cases hsays
    exact hsetting
  · exact fun h => ⟨_, h, rfl⟩

theorem cases_of_setting? {item : List Char} {setting : Setting}
    (h : setting? item = some setting) :
    (∃ optional, setting = .flag optional) ∨
      (∃ access, setting = .access access ∧ Access.read? item = some access) ∨
      ∃ size, setting = .size size ∧ Size.read? item = some size := by
  unfold setting? at h
  split at h
  · cases h
    exact .inl ⟨_, rfl⟩
  · split at h
    · cases h
      exact .inl ⟨_, rfl⟩
    · rcases Option.or_eq_some_iff.1 h with haccess | ⟨-, hsize⟩
      · obtain ⟨access, hread, rfl⟩ := Option.map_eq_some_iff.1 haccess
        exact .inr (.inl ⟨access, rfl, hread⟩)
      · obtain ⟨size, hread, rfl⟩ := Option.map_eq_some_iff.1 hsize
        exact .inr (.inr ⟨size, rfl, hread⟩)

theorem full_settings (p : Paragraph) :
    ∀ access ∈ accesses (settings p), access.isEmpty = false := by
  intro access haccess
  obtain ⟨item, -, hsays⟩ := exists_of_mem_settings (mem_accesses.1 haccess)
  rcases cases_of_setting? hsays with ⟨_, hflag⟩ | ⟨_, haccess, hread⟩ | ⟨_, hsize, -⟩
  · cases hflag
  · cases haccess
    exact Access.isEmpty_of_read? hread
  · cases hsize

theorem exists_of_mem_sizes {ps : List Paragraph} {size : Size}
    (h : size ∈ sizes (ps.flatMap settings)) :
    ∃ p ∈ ps, ∃ item ∈ itemsOf p, Size.read? item = some size := by
  obtain ⟨p, hp, hsetting⟩ := List.mem_flatMap.1 (mem_sizes.1 h)
  obtain ⟨item, hitem, hsays⟩ := exists_of_mem_settings hsetting
  rcases cases_of_setting? hsays with ⟨_, hflag⟩ | ⟨_, haccess, -⟩ | ⟨_, hsize, hread⟩
  · cases hflag
  · cases haccess
  · cases hsize
    exact ⟨p, hp, item, hitem, hread⟩

theorem described_eq (a : Attribute) (p : Paragraph) :
    a.described p = { a with description := (a.described p).description } := by
  unfold described withDescription
  split
  · rfl
  · split <;> rfl

theorem takes_withSettings (a : Attribute) (p : Paragraph) :
    Takes a (settings p) (a.withSettings p) := by
  have hdescribed : Takes a [] (a.described p) := by
    rw [described_eq]
    exact .of_eq rfl rfl rfl rfl
  have hsaid := hdescribed.trans (takes_foldl_withSetting (a.described p) (full_settings p))
  rwa [List.nil_append, ← withSettings_eq] at hsaid

theorem takes_foldl_withSettings (a : Attribute) (ps : List Paragraph) :
    Takes a (ps.flatMap settings) (ps.foldl withSettings a) := by
  induction ps generalizing a with
  | nil => exact .of_eq (.refl a) rfl rfl rfl
  | cons p rest ih => exact (a.takes_withSettings p).trans (ih (a.withSettings p))

/-! ## Descriptions -/

theorem description_withSettings_eq (a : Attribute) (p : Paragraph) :
    (a.withSettings p).description = (a.described p).description := by
  unfold withSettings described
  dsimp only
  rw [isEmpty_trim]
  split
  · rfl
  · split
    · rfl
    · exact description_withItems _ _

theorem mem_description_withDescription {a : Attribute} {index i : UInt64} :
    i ∈ (a.withDescription index).description ↔ i ∈ a.description ∨ index = i := by
  unfold withDescription
  split
  · next hmem => exact ⟨.inl, fun h => h.elim id (fun heq => heq ▸ hmem)⟩
  · rw [(List.mergeSort_perm _ _).mem_iff, List.mem_append, List.mem_singleton,
      eq_comm (a := i)]

theorem ascending_withDescription {a : Attribute}
    (h : a.description.Pairwise (· < ·)) (index : UInt64) :
    (a.withDescription index).description.Pairwise (· < ·) := by
  unfold withDescription
  split
  · exact h
  · next hnew =>
    have hdistinct : (a.description ++ [index]).Nodup := by
      refine List.pairwise_append.2 ⟨h.imp UInt64.ne_of_lt, List.pairwise_singleton _ _, ?_⟩
      rintro i hi j hj rfl
      exact hnew (List.mem_singleton.1 hj ▸ hi)
    have hsorted : ((a.description ++ [index]).mergeSort fun i j => decide (i ≤ j)).Pairwise
        fun i j => decide (i ≤ j) = true := by
      refine List.pairwise_mergeSort (fun i j k hij hjk => ?_) (fun i j => ?_) _
      · exact decide_eq_true
          (UInt64.le_trans (of_decide_eq_true hij) (of_decide_eq_true hjk))
      · simpa using UInt64.le_total i j
    have hnodup := (List.mergeSort_perm _ fun i j => decide (i ≤ j)).nodup_iff.2 hdistinct
    exact (hsorted.and hnodup).imp fun ⟨hle, hne⟩ =>
      UInt64.lt_of_le_of_ne (of_decide_eq_true hle) hne

theorem mem_description_withSettings {a : Attribute} {p : Paragraph} {i : UInt64} :
    i ∈ (a.withSettings p).description ↔
      i ∈ a.description ∨ allBlank p.asciiText = false ∧ p.index = i := by
  rw [description_withSettings_eq, described]
  split
  · next hblank => simp [hblank]
  · next hfull => simp [mem_description_withDescription, hfull]

theorem ascending_withSettings {a : Attribute}
    (h : a.description.Pairwise (· < ·)) (p : Paragraph) :
    (a.withSettings p).description.Pairwise (· < ·) := by
  rw [description_withSettings_eq, described]
  split
  · exact h
  · exact ascending_withDescription h p.index

theorem mem_description_foldl_withSettings {a : Attribute} {ps : List Paragraph}
    {i : UInt64} :
    i ∈ (ps.foldl withSettings a).description ↔
      i ∈ a.description ∨ ∃ p ∈ ps, allBlank p.asciiText = false ∧ p.index = i := by
  induction ps generalizing a with
  | nil => simp
  | cons p rest ih =>
    simp only [List.foldl_cons, ih, mem_description_withSettings, List.mem_cons,
      exists_eq_or_imp, or_assoc]

theorem ascending_foldl_withSettings {a : Attribute} (h : a.description.Pairwise (· < ·))
    (ps : List Paragraph) : (ps.foldl withSettings a).description.Pairwise (· < ·) := by
  induction ps generalizing a with
  | nil => exact h
  | cons p rest ih => exact ih (ascending_withSettings h p)

theorem withSettings_withSettings (a : Attribute) (p : Paragraph) :
    (a.withSettings p).withSettings p = a.withSettings p := by
  refine (a.takes_withSettings p).eq_of_takes ((a.withSettings p).takes_withSettings p) ?_
  rw [description_withSettings_eq, described]
  split
  · rfl
  · next hfull =>
    have hmem : p.index ∈ (a.withSettings p).description :=
      mem_description_withSettings.2 (.inr ⟨Bool.eq_false_iff.2 hfull, rfl⟩)
    rw [withDescription_of_mem hmem]

/-- Paragraphs give an attribute nothing but a description, a flag, accesses and a size.
The flag and the accesses stay once they are there, and a size is only ever replaced by
one of an item in parentheses. The description takes up every paragraph that is not
blank, as it is read in ASCII, and stays in order. To read a paragraph again changes
nothing. -/
theorem settings_are_written_once (a : Attribute) (ps : List Paragraph) :
    a.AgreesButSettings (ps.foldl withSettings a) ∧
    (ps.foldl withSettings a).optional = a.optional.or (flags (ps.flatMap settings)).head? ∧
    (ps.foldl withSettings a).access =
      (if a.access.isEmpty then (accesses (ps.flatMap settings)).head?.getD ∅
        else a.access) ∧
    (∀ access ∈ accesses (ps.flatMap settings), access.isEmpty = false) ∧
    (ps.foldl withSettings a).size = (sizes (ps.flatMap settings)).getLast?.or a.size ∧
    (∀ size ∈ sizes (ps.flatMap settings), ∃ p ∈ ps, ∃ item ∈ itemsOf p,
      Size.read? item = some size) ∧
    (∀ p, (itemsOf p).length < 3 →
      a.withSettings p = { a with description := (a.withSettings p).description }) ∧
    (∀ i, i ∈ (ps.foldl withSettings a).description ↔
      i ∈ a.description ∨ ∃ p ∈ ps, allBlank p.asciiText = false ∧ p.index = i) ∧
    (∀ p, allBlank p.asciiText = true → a.withSettings p = a) ∧
    (a.description.Pairwise (· < ·) →
    (ps.foldl withSettings a).description.Pairwise (· < ·)) ∧
    (∀ p, ofParagraph? p = some a →
    (ps.foldl withSettings a).description.Pairwise (· < ·)) ∧
    ∀ p, (a.withSettings p).withSettings p = a.withSettings p := by
  have htakes := a.takes_foldl_withSettings ps
  refine ⟨htakes.agrees, htakes.optional, htakes.access, htakes.full, htakes.size,
    fun _ => exists_of_mem_sizes, fun p hfew => ?_,
    fun _ => mem_description_foldl_withSettings, fun p hblank => ?_,
    fun h => ascending_foldl_withSettings h ps, fun p hp => ?_, a.withSettings_withSettings⟩
  · have hnone : a.withSettings p = a.described p := by
      rw [withSettings_eq, settings, if_pos hfew, List.foldl_nil]
    rw [hnone]
    exact a.described_eq p
  · rw [withSettings, isEmpty_trim, hblank]
    rfl
  · refine ascending_foldl_withSettings ?_ ps
    rw [description_of_ofParagraph? hp]
    exact List.pairwise_singleton _ _

/-- Begins an attribute and gives it a single item. -/
def leadParagraph : Paragraph where
  index := 3
  style := "Normal"
  text := "Alarm: This attribute (mandatory)"
  runs := [{ text := "Alarm:", bold := true }]

/-- Gives all three settings and another size. -/
def settingsParagraph : Paragraph where
  index := 5
  style := "Normal"
  text := "(R, W) (optional) (2 bytes) (mandatory) (4 bytes)"

/-- What the first of the two paragraphs begins. -/
def ledAttribute : Attribute :=
  { name := "Alarm", description := [3] }

theorem settings_are_written_once_sample :
    ofParagraph? leadParagraph = some ledAttribute ∧
      (itemsOf leadParagraph).length < 3 ∧
      (ledAttribute.withSettings leadParagraph).optional = none ∧
      ([settingsParagraph].foldl withSettings ledAttribute).optional = some true ∧
      ([settingsParagraph].foldl withSettings ledAttribute).size = some (.ofOctets 4) ∧
      ([settingsParagraph].foldl withSettings ledAttribute).description.Pairwise
        (· < ·) := by
  have hlead : ofParagraph? leadParagraph = some ledAttribute := by decide
  have hfew : (itemsOf leadParagraph).length < 3 := by decide
  obtain ⟨-, hoptional, -, -, hsize, -, hsettings, -, -, -, hascending, -⟩ :=
    settings_are_written_once ledAttribute [settingsParagraph]
  exact ⟨hlead, hfew, congrArg Attribute.optional (hsettings leadParagraph hfew),
    hoptional.trans (by decide), hsize.trans (by decide), hascending leadParagraph hlead⟩

/-- Whether a paragraph is blank is seen in ASCII only. A letter that has no spelling
there leaves a blank, and a no-break space is spelled as a hyphen. -/
theorem blank_paragraphs_are_those_blank_in_ascii :
    let accented : Paragraph := ⟨5, "Normal", "é", []⟩
    let unbroken : Paragraph := ⟨5, "Normal", "\u00a0", []⟩
    (allBlank accented.text.toList = false ∧
      accented.index ∉ (ledAttribute.withSettings accented).description) ∧
    (allBlank unbroken.text.toList = true ∧
      unbroken.index ∈ (ledAttribute.withSettings unbroken).description) := by
  intro accented unbroken
  rw [mem_description_withSettings, mem_description_withSettings]
  decide

end Attribute

end Omci
