import Omci.Attribute.Reading
import Omci.Proofs.Text.Parens
import Omci.Proofs.Text.Title

/-!
# Names are clean

The bold text of an attribute becomes its name in steps, and the later ones
could undo what the earlier ones did: title case meets the characters that
spelling left, and a repair may write what another one has taken out. A
character stays out of a name if some repair replaces it wherever it stands and
no repair from there on writes it. Parentheses and colons go last of all, and
then the blanks are put in order.

What the name is made of is settled before that. It is the text in front of the
first colon, and a group in it counts as much as a blank in its place.
-/

namespace Omci.Attribute

open Text

/-! ## Repairs -/

section Repairs

variable {repairs : List (String × String)} {s : List Char} {c : Char}

/-- One of the repairs takes the character out, and neither that one nor one
behind it writes it. -/
def clears (c : Char) : List (String × String) → Bool
  | [] => false
  | entry :: rest =>
    entry.1.toList = [c] && (entry :: rest).all (fun later => c ∉ later.2.toList) ||
      clears c rest

theorem mem_repair (h : c ∈ repair repairs s) :
    c ∈ s ∨ ∃ entry ∈ repairs, c ∈ entry.2.toList := by
  induction repairs generalizing s with
  | nil => exact .inl h
  | cons entry rest ih =>
    rcases ih h with hc | ⟨later, hlater, hc⟩
    · rcases mem_replaceFrom hc with hc | hc
      · exact .inr ⟨entry, List.mem_cons_self, hc⟩
      · exact .inl hc
    · exact .inr ⟨later, List.mem_cons_of_mem _ hlater, hc⟩

theorem not_mem_repair (h : clears c repairs = true) : c ∉ repair repairs s := by
  induction repairs generalizing s with
  | nil => cases h
  | cons entry rest ih =>
    rw [clears, Bool.or_eq_true, Bool.and_eq_true, List.all_eq_true] at h
    rcases h with ⟨hpattern, hwrites⟩ | h
    · have hwrites : ∀ later ∈ entry :: rest, c ∉ later.2.toList :=
        fun later hlater => of_decide_eq_true (hwrites later hlater)
      have hgone : c ∉ replace entry.1.toList entry.2.toList s := by
        rw [of_decide_eq_true hpattern]
        exact not_mem_replace_singleton (hwrites entry List.mem_cons_self) s
      intro hc
      have hbehind : c ∈ repair rest (replace entry.1.toList entry.2.toList s) := hc
      rcases mem_repair hbehind with hc | ⟨later, hlater, hc⟩
      · exact hgone hc
      · exact hwrites later (List.mem_cons_of_mem _ hlater) hc
    · exact ih h

end Repairs

/-! ## Names -/

variable {bold : List Char} {c : Char}

theorem mem_nameOf (hc : c ∈ nameOf bold) :
    c = ' ' ∨ (c ≠ '(' ∧ c ≠ ')' ∧ c ≠ ':' ∧ c ∈ repair nameRepairs
      (title (collapse (replaceGroups [' '] (upTo ':' (toAscii bold)))))) := by
  rcases mem_collapse hc with hspace | hc
  · exact .inl hspace
  · obtain ⟨d, hd, rfl⟩ := List.mem_map.1 hc
    split
    · exact .inl rfl
    · next hother =>
      simp only [Bool.or_eq_true, decide_eq_true_eq, not_or] at hother
      exact .inr ⟨hother.1.1, hother.1.2, hother.2, hd⟩

theorem toNat_lt_of_mem_nameOf (hc : c ∈ nameOf bold) : c.toNat < 128 := by
  have hrepairs : ∀ entry ∈ nameRepairs, entry.2.toList.all (·.toNat < 128) = true := by
    decide +kernel
  rcases mem_nameOf hc with rfl | ⟨-, -, -, hc⟩
  · decide
  · rcases mem_repair hc with hc | ⟨entry, hentry, hc⟩
    · refine toNat_lt_of_mem_title (fun d hd => ?_) hc
      have hhead {e : Char} (he : e ∈ upTo ':' (toAscii bold)) : e.toNat < 128 :=
        toNat_lt_of_mem_toAscii (List.takeWhile_subset _ he)
      rcases mem_collapse hd with rfl | hd
      · decide
      · rcases mem_replaceGroupsFrom hd with hd | hd
        · rw [List.mem_singleton.1 hd]
          decide
        · exact hhead hd
    · exact of_decide_eq_true (List.all_eq_true.1 (hrepairs entry hentry) c hc)

theorem not_mem_nameOf (h : c ∈ ['(', ')', ':', '/', '-', '+', ',', '"']) :
    c ∉ nameOf bold := by
  have hcleared : ['/', '-', '+', ',', '"'].all (clears · nameRepairs) = true := by
    decide +kernel
  have hspace : ' ' ∉ ['(', ')', ':', '/', '-', '+', ',', '"'] := by decide
  intro hc
  rcases mem_nameOf hc with rfl | ⟨hopening, hclosing, hcolon, hc⟩
  · exact hspace h
  · refine not_mem_repair (List.all_eq_true.1 hcleared c ?_) hc
    simpa [hopening, hclosing, hcolon] using h

/-- All that counts is the text in front of the first colon, without groups. -/
theorem nameOf_congr {s t : List Char} (h : replaceGroups [' '] (upTo ':' (toAscii s)) =
    replaceGroups [' '] (upTo ':' (toAscii t))) : nameOf s = nameOf t := by
  simp only [nameOf, h]

theorem nameOf_append_colon (front rest : List Char) :
    nameOf (front ++ ':' :: rest) = nameOf front := by
  refine nameOf_congr ?_
  rw [toAscii_append_cons (by decide), upTo_append_cons]

/-- A group may be a blank, also where the colon stands in front of it. -/
theorem replaceGroups_upTo_group {a g : List Char}
    (ha : '(' ∉ a) (hg : ')' ∉ g) (hcolon : ':' ∉ g) (b : List Char) :
    replaceGroups [' '] (upTo ':' (a ++ '(' :: (g ++ ')' :: b))) =
      replaceGroups [' '] (upTo ':' (a ++ ' ' :: b)) := by
  by_cases hhead : ':' ∈ a
  · rw [upTo_append_of_mem hhead, upTo_append_of_mem hhead]
  · have hgroup : ':' ∉ '(' :: (g ++ [')']) := by simpa using hcolon
    have hupTo : upTo ':' ('(' :: (g ++ ')' :: b)) = '(' :: (g ++ ')' :: upTo ':' b) := by
      have happend := upTo_append hgroup b
      simpa using happend
    have hblank : upTo ':' (' ' :: b) = ' ' :: upTo ':' b :=
      upTo_append (s := [' ']) (by decide) b
    have hopen : '(' ∉ a ++ [' '] := List.not_mem_append ha (by decide)
    have happend := replaceGroups_append [' '] hopen (upTo ':' b)
    rw [List.append_assoc, List.singleton_append] at happend
    rw [upTo_append hhead, upTo_append hhead, hupTo, hblank, replaceGroups_append _ ha,
      replaceGroups_group _ hg, happend, List.append_assoc]

theorem nameOf_group {a g : List Char} (ha : '(' ∉ a) (hg : ')' ∉ g) (hcolon : ':' ∉ g)
    (b : List Char) : nameOf (a ++ '(' :: (g ++ ')' :: b)) = nameOf (a ++ ' ' :: b) := by
  refine nameOf_congr ?_
  rw [toAscii_append_cons (by decide), toAscii_append_cons (by decide),
    toAscii_append_cons (by decide)]
  refine replaceGroups_upTo_group ?_ ?_ ?_ (toAscii b)
  · exact not_mem_toAscii (by decide) (by decide) ha
  · exact not_mem_toAscii (by decide) (by decide) hg
  · exact not_mem_toAscii (by decide) (by decide) hcolon

/-- A name is in ASCII, has none of the characters that set its parts off in the
document, and its blanks are single and inside. Nothing behind the first colon
gets into it, and nothing in a group. -/
theorem names_are_clean_and_without_qualifiers :
    (∀ bold : List Char,
      (∀ c ∈ nameOf bold, c.toNat < 128 ∧ c ∉ ['(', ')', ':', '/', '-', '+', ',', '"']) ∧
      IsCollapsed (nameOf bold)) ∧
    (∀ front rest : List Char, nameOf (front ++ ':' :: rest) = nameOf front) ∧
    ∀ a g b : List Char, '(' ∉ a → ')' ∉ g → ':' ∉ g →
      nameOf (a ++ '(' :: (g ++ ')' :: b)) = nameOf (a ++ ' ' :: b) := by
  refine ⟨fun bold =>
    ⟨fun c hc => ⟨toNat_lt_of_mem_nameOf hc, fun h => not_mem_nameOf h hc⟩, ?_⟩,
    nameOf_append_colon, fun a g b ha hg hcolon => nameOf_group ha hg hcolon b⟩
  exact isCollapsed_collapse _

theorem names_are_clean_and_without_qualifiers_sample :
    let a := "Far end".toList
    let g := "see 1 /2, (note".toList
    let b := " c_= 0, \"leftr\" n umber: (R)".toList
    '(' ∉ a ∧ ')' ∉ g ∧ ':' ∉ g ∧
      nameOf (a ++ '(' :: (g ++ ')' :: b)) = nameOf (a ++ ' ' :: b) ∧
      nameOf (a ++ '(' :: (g ++ ')' :: b)) = "Far End C0 Leftr Number".toList := by
  intro a g b
  have ha : '(' ∉ a := by decide
  have hg : ')' ∉ g := by decide
  have hcolon : ':' ∉ g := by decide
  exact ⟨ha, hg, hcolon, names_are_clean_and_without_qualifiers.2.2 a g b ha hg hcolon,
    by decide +kernel⟩

end Omci.Attribute
