import Mathlib.Algebra.Order.Ring.Nat
import Omci.Augmentation
import Omci.Proofs.Constraint

/-!
# What an attribute suggests for itself

Default and constraint are found apart, each by the type, and they meet in the
length: octets of that many are the default, and that many the constraint asks
for. Where the length is missing both are missing. The default of an integer is
zero, which is in every range that begins there and has no bit beside any mask.

The bounds do not come from the length in the same way. Only three widths have a
bound of their own, and every other one has that of 8 octets. It is right for
these, and no field that is longer is kept from its values; but a field of 3, 5,
6 or 7 octets gets a bound that it cannot hold.
-/

namespace Omci.Attribute

open Text

variable {a : Attribute}

/-! ## Lengths -/

theorem length?_eq_none_iff : a.length? = none ↔ ∀ octets ∈ a.octets, octets.toInt < 0 := by
  unfold length?
  cases a.octets with
  | none => simp
  | some octets => simp

theorem length?_eq_some_iff {n : Nat} :
    a.length? = some n ↔ ∃ octets ∈ a.octets, octets.toInt = n := by
  unfold length?
  cases a.octets with
  | none => simp
  | some octets =>
    simp only [Option.bind_some, Option.ite_none_right_eq_some, Option.some.injEq,
      Option.mem_def, exists_eq_left']
    omega

/-! ## Defaults and constraints -/

/-- The types whose default fills the whole length, and with which octet. -/
def fills : List (AttributeType × UInt8) :=
  [(.octets, 0), (.string, 0x20), (.table, 0)]

theorem typeDefault?_of_fills {fill : UInt8} (h : (a.type, fill) ∈ fills) :
    a.typeDefault? = a.filled? fill := by
  simp only [fills, List.mem_cons, Prod.mk.injEq, List.not_mem_nil, or_false] at h
  unfold typeDefault?
  rcases h with ⟨htype, rfl⟩ | ⟨htype, rfl⟩ | ⟨htype, rfl⟩ <;> rw [htype]

theorem exists_text_of_filled? {n : Nat} (h : a.length? = some n) (fill : UInt8) :
    ∃ text : String, a.filled? fill = some ⟨.str text, rfl⟩ ∧
      text.length = 4 * ((n + 2) / 3) ∧
      Base64.decode? text.toList = some (List.replicate n fill) := by
  refine ⟨String.ofList (Base64.encode (List.replicate n fill)), ?_, ?_, ?_⟩
  · rw [filled?, h, Option.map_some]
  · rw [String.length_ofList, Base64.length_encode, List.length_replicate]
  · rw [String.toList_ofList, Base64.decode?_encode]

theorem typeConstraint?_of_sized (h : a.type = .octets ∨ a.type = .string) :
    a.typeConstraint? = a.length?.map fun n => "len(" ++ numeral n ++ ")" := by
  unfold typeConstraint?
  rcases h with htype | htype <;> rw [htype]

/-- The types of integers that are bounded by the length. -/
def bounded : List AttributeType :=
  [.unsignedInteger, .enumeration, .bitField]

theorem exists_read?_of_bounded (h : a.type ∈ bounded) :
    ∃ text c, a.typeConstraint? = some text ∧ Constraint.read? text.toList = some c ∧
      c.greatest? = some a.maxInteger := by
  simp only [bounded, List.mem_cons, List.not_mem_nil, or_false] at h
  unfold typeConstraint?
  rcases h with htype | htype | htype <;> rw [htype]
  · exact ⟨_, _, rfl, Constraint.read?_range _, rfl⟩
  · exact ⟨_, _, rfl, Constraint.read?_range _, rfl⟩
  · exact ⟨_, _, rfl, Constraint.read?_mask _, rfl⟩

theorem typeDefault?_of_bounded (h : a.type ∈ bounded) :
    a.typeDefault? = some ⟨.int 0, rfl⟩ := by
  simp only [bounded, List.mem_cons, List.not_mem_nil, or_false] at h
  unfold typeDefault?
  rcases h with htype | htype | htype <;> rw [htype]

/-- Wherever there is a constraint there is a default that keeps to it. -/
theorem exists_admitted_of_typeConstraint? {text : String}
    (h : a.typeConstraint? = some text) :
    ∃ c value, Constraint.read? text.toList = some c ∧ a.typeDefault? = some value ∧
      c.Admits value := by
  have hzero {low high : Nat} (hlow : low = 0) :
      (Constraint.range low high).Admits ⟨.int 0, rfl⟩ :=
        ⟨0, rfl, by omega, Nat.zero_le high⟩
  have hbits (bits : Nat) : (Constraint.mask bits).Admits ⟨.int 0, rfl⟩ :=
    ⟨0, rfl, Nat.zero_and bits⟩
  have hsized (fill : UInt8)
      (h : (a.length?.map fun n => "len(" ++ numeral n ++ ")") = some text) :
      ∃ c value, Constraint.read? text.toList = some c ∧ a.filled? fill = some value ∧
        c.Admits value := by
    obtain ⟨n, hn, rfl⟩ := Option.map_eq_some_iff.1 h
    obtain ⟨data, hdefault, -, hdata⟩ := exists_text_of_filled? hn fill
    exact ⟨.length n, _, Constraint.read?_length n, hdefault, data, _, rfl, hdata,
      List.length_replicate⟩
  unfold typeConstraint? at h
  unfold typeDefault?
  cases htype : a.type <;> rw [htype] at h
  case octets => exact hsized 0 h
  case string => exact hsized 0x20 h
  case unsignedInteger | enumeration =>
    cases h
    exact ⟨_, _, Constraint.read?_range _, rfl, hzero rfl⟩
  case pointer =>
    cases h
    exact ⟨_, _, Constraint.read?_range 0xFFFF, rfl, hzero rfl⟩
  case bitField =>
    cases h
    exact ⟨_, _, Constraint.read?_mask _, rfl, hbits _⟩
  all_goals cases h

/-- Octets, texts and tables have a default unless the length is missing, and it is
as long as the attribute and the same octet all over. Octets and texts have then a
constraint to that length, and only then; tables have none. An integer has zero for
its default, whatever its size. And every constraint admits the default. -/
theorem defaults_keep_to_constraints (a : Attribute) :
    (∀ fill, (a.type, fill) ∈ fills →
      (a.typeDefault? = none ↔ ∀ octets ∈ a.octets, octets.toInt < 0) ∧
      ∀ n : Nat, (∃ octets ∈ a.octets, octets.toInt = n) →
        ∃ text : String, a.typeDefault? = some ⟨.str text, rfl⟩ ∧
          text.length = 4 * ((n + 2) / 3) ∧
          Base64.decode? text.toList = some (List.replicate n fill)) ∧
    (a.type = .octets ∨ a.type = .string →
      (a.typeConstraint? = none ↔ ∀ octets ∈ a.octets, octets.toInt < 0) ∧
      ∀ n : Nat, (∃ octets ∈ a.octets, octets.toInt = n) →
        a.typeConstraint? = some ("len(" ++ numeral n ++ ")")) ∧
    (a.type = .table → a.typeConstraint? = none) ∧
    (a.type ∈ bounded → a.typeDefault? = some ⟨.int 0, rfl⟩ ∧
      a.typeConstraint?.isSome = true) ∧
    ∀ text, a.typeConstraint? = some text →
      ∃ c value, Constraint.read? text.toList = some c ∧ a.typeDefault? = some value ∧
        c.Admits value := by
  refine ⟨fun fill hfill => ⟨?_, fun n hn => ?_⟩, fun htype => ⟨?_, fun n hn => ?_⟩,
    fun htype => ?_, fun htype => ⟨typeDefault?_of_bounded htype, ?_⟩,
    fun text => exists_admitted_of_typeConstraint?⟩
  · rw [typeDefault?_of_fills hfill, filled?, Option.map_eq_none_iff, length?_eq_none_iff]
  · rw [typeDefault?_of_fills hfill]
    exact exists_text_of_filled? (length?_eq_some_iff.2 hn) fill
  · rw [typeConstraint?_of_sized htype, Option.map_eq_none_iff, length?_eq_none_iff]
  · rw [typeConstraint?_of_sized htype, length?_eq_some_iff.2 hn, Option.map_some]
  · rw [typeConstraint?, htype]
  · obtain ⟨text, _, hconstraint, -⟩ := exists_read?_of_bounded htype
    rw [hconstraint]
    rfl

/-- A text of 20 bits has 3 octets, which are 3 blanks by default. -/
theorem defaults_keep_to_constraints_sample :
    let title : Attribute := { name := "Title", type := .string, size := some (.ofBits 20) }
    (title.type, (0x20 : UInt8)) ∈ fills ∧ title.typeConstraint? = some "len(3)" ∧
      ∃ text : String, title.typeDefault? = some ⟨.str text, rfl⟩ ∧ text.length = 4 ∧
        Base64.decode? text.toList = some [0x20, 0x20, 0x20] := by
  intro title
  have hfills : (title.type, (0x20 : UInt8)) ∈ fills := by decide
  have hlength : ∃ octets ∈ title.octets, octets.toInt = (3 : Nat) :=
    ⟨3, by decide, by decide⟩
  obtain ⟨hdefault, hconstraint, -⟩ := defaults_keep_to_constraints title
  exact ⟨hfills, (hconstraint (.inr rfl)).2 3 hlength, (hdefault 0x20 hfills).2 3 hlength⟩

/-! ## Bounds -/

theorem maxInteger_eq {k : Nat} (h : a.length? = some k) :
    a.maxInteger = 256 ^ (if k ∈ [1, 2, 4] then k else 8) - 1 := by
  unfold maxInteger
  rw [h]
  split
  · next hk => cases hk; rfl
  · next hk => cases hk; rfl
  · next hk => cases hk; rfl
  · next hone htwo hfour =>
    have hother : k ∉ [1, 2, 4] := by
      simp only [List.mem_cons, List.not_mem_nil, or_false, not_or]
      exact ⟨fun hk => hone (hk ▸ rfl), fun hk => htwo (hk ▸ rfl),
        fun hk => hfour (hk ▸ rfl)⟩
    rw [if_neg hother]
    rfl

/-- The bound of a width fits it, unless it is one of the four that get the bound
of a greater one. -/
theorem bound_le_iff {k : Nat} (hpos : 0 < k) :
    256 ^ (if k ∈ [1, 2, 4] then k else 8) - 1 ≤ 256 ^ k - 1 ↔ k ∉ [3, 5, 6, 7] := by
  -- From 8 octets on the bound no longer grows, and the field does.
  rcases Nat.lt_or_ge k 8 with hless | hmore
  · have hall : ∀ k < 8, 0 < k →
        (256 ^ (if k ∈ [1, 2, 4] then k else 8) - 1 ≤ 256 ^ k - 1 ↔ k ∉ [3, 5, 6, 7]) := by
          decide +kernel
    exact hall k hless hpos
  · have hother : k ∉ [1, 2, 4] := by simp; omega
    rw [if_neg hother]
    refine iff_of_true (Nat.sub_le_sub_right (Nat.pow_le_pow_right (by decide) hmore) 1) ?_
    simp
    omega

/-- The bound of an integer is that of its own width for 1, 2 and 4 octets, and of
8 octets for every other one. It lets in no value that is too great for the field,
unless the field has 3, 5, 6 or 7 octets. -/
theorem bounds_fit_but_for_four_widths (a : Attribute) (htype : a.type ∈ bounded) {k : Nat}
    (hk : ∃ octets ∈ a.octets, octets.toInt = k) (hpos : 0 < k) :
    ∃ text c bound, a.typeConstraint? = some text ∧ Constraint.read? text.toList = some c ∧
      c.greatest? = some bound ∧ bound = 256 ^ (if k ∈ [1, 2, 4] then k else 8) - 1 ∧
      (bound ≤ 256 ^ k - 1 ↔ k ∉ [3, 5, 6, 7]) := by
  obtain ⟨text, c, hconstraint, hread, hgreatest⟩ := exists_read?_of_bounded htype
  have hbound := maxInteger_eq (length?_eq_some_iff.2 hk)
  exact ⟨text, c, a.maxInteger, hconstraint, hread, hgreatest, hbound,
    hbound ▸ bound_le_iff hpos⟩

/-- Bits of 12 fill 2 octets in part, and the mask is that of both. -/
theorem bounds_fit_but_for_four_widths_sample :
    let flags : Attribute :=
      { name := "Flags", type := .bitField, size := some (.ofBits 12) }
    flags.type ∈ bounded ∧ (∃ octets ∈ flags.octets, octets.toInt = (2 : Nat)) ∧ 0 < 2 ∧
      ∃ text c bound, flags.typeConstraint? = some text ∧
        Constraint.read? text.toList = some c ∧
        c.greatest? = some bound ∧ bound = 0xFFFF ∧ bound ≤ 256 ^ 2 - 1 := by
  intro flags
  have htype : flags.type ∈ bounded := by decide
  have hlength : ∃ octets ∈ flags.octets, octets.toInt = (2 : Nat) :=
    ⟨2, by decide, by decide⟩
  obtain ⟨text, c, bound, hconstraint, hread, hgreatest, hbound, hfits⟩ :=
    bounds_fit_but_for_four_widths flags htype hlength (by decide)
  exact ⟨htype, hlength, by decide, text, c, bound, hconstraint, hread, hgreatest, hbound,
    hfits.2 (by decide)⟩

/-- A field of 3 octets gets the bound of 8, and so a range that is too great for it. -/
theorem three_octets_get_the_bound_of_eight :
    let sum : Attribute :=
      { name := "Check sum", type := .unsignedInteger, size := some (.ofOctets 3) }
    sum.octets = some 3 ∧ sum.typeConstraint? = some "0..0xFFFFFFFFFFFFFFFF" ∧
      Constraint.read? "0..0xFFFFFFFFFFFFFFFF".toList = some (.range 0 0xFFFFFFFFFFFFFFFF) ∧
      ¬ 0xFFFFFFFFFFFFFFFF ≤ 256 ^ 3 - 1 := by
  decide +kernel

end Omci.Attribute
