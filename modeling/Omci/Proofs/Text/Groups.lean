import Mathlib.Logic.ExistsUnique
import Omci.Proofs.Text.Parens

/-!
# A text is cut at its groups in one way

Outside of groups only an opening parenthesis counts, and inside only a closing
one. So a closing parenthesis may stand outside, an item may hold opening ones,
and still a text is put together from stretches and items in exactly one way:
a stretch ends at the first opening parenthesis, an item at the first closing
one, and the last item may run to the end of the text. Scanning finds the items
of this one way. The inductions are on the way a text is put together, but for
its existence: there each group that is cut off leaves a shorter text.
-/

namespace Omci.Text

/-- How a text is put together from the stretches outside of its groups and the
items of its groups. -/
inductive Grouping where
  /-- Nothing but a stretch without a group. -/
  | plain (outside : List Char)
  /-- The text ends before the item does. -/
  | unclosed (outside item : List Char)
  /-- A group, and how what stands behind it is put together. -/
  | closed (outside item : List Char) (behind : Grouping)
deriving DecidableEq, Repr

namespace Grouping

/-- What is put together. -/
def text : Grouping → List Char
  | plain outside => outside
  | unclosed outside item => outside ++ '(' :: item
  | closed outside item behind => outside ++ '(' :: (item ++ ')' :: behind.text)

/-- The items of the groups, in order. -/
def items : Grouping → List (List Char)
  | plain _ => []
  | unclosed _ item => [item]
  | closed _ item behind => item :: behind.items

/-- No group begins in a stretch outside, and no item has an end in it. -/
def IsProper : Grouping → Prop
  | plain outside => '(' ∉ outside
  | unclosed outside item => '(' ∉ outside ∧ ')' ∉ item
  | closed outside item behind => '(' ∉ outside ∧ ')' ∉ item ∧ behind.IsProper

instance decidableIsProper : DecidablePred IsProper
  | plain outside => inferInstanceAs (Decidable ('(' ∉ outside))
  | unclosed outside item => inferInstanceAs (Decidable ('(' ∉ outside ∧ ')' ∉ item))
  | closed outside item behind =>
    have := decidableIsProper behind
    inferInstanceAs (Decidable ('(' ∉ outside ∧ ')' ∉ item ∧ behind.IsProper))

theorem parenItems_text {grouping : Grouping} (h : grouping.IsProper) :
    parenItems grouping.text = grouping.items := by
  induction grouping with
  | plain outside => exact parenItems_of_not_mem h
  | unclosed outside item =>
    obtain ⟨houtside, hitem⟩ := h
    rw [text, items, parenItems_append houtside, parenItems, if_pos rfl,
      parenItemsWithin_of_not_mem hitem]
  | closed outside item behind ih =>
    obtain ⟨houtside, hitem, hbehind⟩ := h
    rw [text, items, parenItems_group houtside hitem, ih hbehind]

/-! ## One way -/

theorem exists_isProper (s : List Char) :
    ∃ grouping : Grouping, grouping.IsProper ∧ grouping.text = s := by
  by_cases hopening : '(' ∈ s
  · obtain ⟨outside, rest, hs, houtside⟩ := List.eq_append_cons_of_mem hopening
    by_cases hclosing : ')' ∈ rest
    · obtain ⟨item, behind, hrest, hitem⟩ := List.eq_append_cons_of_mem hclosing
      have hshorter : behind.length < s.length := by
        rw [hs, hrest]
        simp only [List.length_append, List.length_cons]
        omega
      obtain ⟨grouping, hproper, htext⟩ := exists_isProper behind
      refine ⟨closed outside item grouping, ⟨houtside, hitem, hproper⟩, ?_⟩
      rw [text, htext, ← hrest, hs]
    · exact ⟨unclosed outside rest, ⟨houtside, hclosing⟩, hs.symm⟩
  · exact ⟨plain s, hopening, rfl⟩
termination_by s.length

theorem eq_plain_of_not_mem {grouping : Grouping} (h : '(' ∉ grouping.text) :
    grouping = plain grouping.text := by
  cases grouping with
  | plain outside => rfl
  | unclosed outside item => exact absurd (List.mem_append_right _ List.mem_cons_self) h
  | closed outside item behind =>
    exact absurd (List.mem_append_right _ List.mem_cons_self) h

theorem IsProper.eq_of_text_eq {grouping other : Grouping} (h : grouping.IsProper)
    (hother : other.IsProper) (htext : grouping.text = other.text) : grouping = other := by
  have hclosing (item rest : List Char) : ')' ∈ item ++ ')' :: rest :=
    List.mem_append_right _ List.mem_cons_self
  induction grouping generalizing other with
  | plain outside =>
    have hnone : '(' ∉ other.text := htext ▸ h
    rw [eq_plain_of_not_mem hnone, ← htext]
    rfl
  | unclosed outside item =>
    obtain ⟨houtside, hitem⟩ := h
    cases other with
    | plain outside' =>
      have hnone : '(' ∉ (unclosed outside item).text := htext ▸ hother
      rw [eq_plain_of_not_mem hnone, htext]
      rfl
    | unclosed outside' item' =>
      obtain ⟨rfl, rfl⟩ := (append_separator_inj houtside hother.1).1 htext
      rfl
    | closed outside' item' behind' =>
      obtain ⟨-, rfl⟩ := (append_separator_inj houtside hother.1).1 htext
      exact absurd (hclosing _ _) hitem
  | closed outside item behind ih =>
    obtain ⟨houtside, hitem, hbehind⟩ := h
    cases other with
    | plain outside' =>
      have hnone : '(' ∉ (closed outside item behind).text := htext ▸ hother
      rw [eq_plain_of_not_mem hnone, htext]
      rfl
    | unclosed outside' item' =>
      obtain ⟨-, rfl⟩ := (append_separator_inj houtside hother.1).1 htext
      exact absurd (hclosing _ _) hother.2
    | closed outside' item' behind' =>
      obtain ⟨houtside', hitem', hbehind'⟩ := hother
      obtain ⟨rfl, hrest⟩ := (append_separator_inj houtside houtside').1 htext
      obtain ⟨rfl, hmore⟩ := (append_separator_inj hitem hitem').1 hrest
      rw [ih hbehind hbehind' hmore]

end Grouping

/-- A text is put together from stretches without an opening parenthesis and
items without a closing one in exactly one way, and its items are the ones of
that way. Nothing else finds the items of all texts. -/
theorem every_text_has_the_items_of_its_one_grouping :
    (∀ grouping : Grouping, grouping.IsProper → parenItems grouping.text = grouping.items) ∧
    (∀ s : List Char, ∃! grouping : Grouping, grouping.IsProper ∧ grouping.text = s) ∧
    ∀ scan : List Char → List (List Char),
      (∀ grouping : Grouping, grouping.IsProper → scan grouping.text = grouping.items) →
      scan = parenItems := by
  refine ⟨fun grouping h => Grouping.parenItems_text h, fun s => ?_, fun scan hscan => ?_⟩
  · obtain ⟨grouping, hproper, htext⟩ := Grouping.exists_isProper s
    refine ⟨grouping, ⟨hproper, htext⟩, fun other hother => ?_⟩
    exact hother.1.eq_of_text_eq hproper (hother.2.trans htext.symm)
  · funext s
    obtain ⟨grouping, hproper, rfl⟩ := Grouping.exists_isProper s
    rw [hscan grouping hproper, Grouping.parenItems_text hproper]

theorem every_text_has_the_items_of_its_one_grouping_sample :
    let grouping := Grouping.closed "Rate) ".toList "R, (W\n".toList
      (.closed " )".toList [] (.unclosed ": ".toList "2 bytes".toList))
    grouping.IsProper ∧ grouping.text = "Rate) (R, (W\n) )(): (2 bytes".toList ∧
      parenItems "Rate) (R, (W\n) )(): (2 bytes".toList =
        ["R, (W\n".toList, [], "2 bytes".toList] ∧
      (fun s => parenItems (trimStart s)) = parenItems := by
  intro grouping
  obtain ⟨hitems, -, hscan⟩ := every_text_has_the_items_of_its_one_grouping
  have hproper : grouping.IsProper := by decide
  have htrimmed : ∀ other : Grouping, other.IsProper →
      parenItems (trimStart other.text) = other.items := by
    intro other hother
    rw [parenItems_trimStart, hitems other hother]
  exact ⟨hproper, rfl, hitems grouping hproper, hscan _ htrimmed⟩

end Omci.Text
