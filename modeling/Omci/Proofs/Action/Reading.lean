import Omci.Action.Reading
import Omci.Proofs.Ascending
import Omci.Proofs.Text.Casing
import Omci.Proofs.Text.Parens

/-!
# A bold list of keywords names its actions

No keyword has a comma, a capital or a blank at one of its ends, and no two
actions share one. So the list that is written with commas is cut into the
keywords again, and each of them leads back to its action.
-/

namespace Omci

open Text

namespace Action

/-- The code of an action tells which action it is, so that putting actions
into a set replaces none. -/
theorem code_inj (x y : Action) (h : x.code = y.code) : x = y := by
  have hfind : ∀ z : Action, (all.find? fun action => action.code = z.code) = some z := by
    intro z
    cases z <;> rfl
  have hx := hfind x
  rw [h, hfind y] at hx
  exact (Option.some.inj hx).symm

theorem mem_put_iff {actions : ActionSet} {a b : Action} :
    a ∈ (actions.put b).toList ↔ a = b ∨ a ∈ actions.toList := by
  have hput : a ∈ (actions.putAll [b]).toList ↔ a ∈ [b] ∨ a ∈ actions.toList :=
    Ascending.mem_putAll_iff code_inj
  rwa [List.mem_singleton] at hput

theorem mem_ofList_iff {actions : List Action} {a : Action} :
    a ∈ (Ascending.ofList actions : ActionSet).toList ↔ a ∈ actions :=
  (Ascending.mem_putAll_iff code_inj).trans (or_iff_left List.not_mem_nil)

theorem find?_keyword (action : Action) :
    (all.find? fun other => other.keyword.toList = action.keyword.toList) =
      some action := by
  cases action <;> decide

theorem ofKeyword?_eq_some_iff {s : List Char} {action : Action} :
    ofKeyword? s = some action ↔ lower (trim (toAscii s)) = action.keyword.toList := by
  rw [ofKeyword?]
  constructor
  · intro h
    exact (of_decide_eq_true (List.find?_some h :)).symm
  · intro h
    rw [h, find?_keyword]

theorem all_keyword (action : Action) :
    (action.keyword.toList.all fun c =>
      decide (97 ≤ c.toNat ∧ c.toNat ≤ 122) || c = ' ') = true := by
  cases action <;> decide

/-- Keywords are made of small letters and spaces. -/
theorem mem_keyword {action : Action} {c : Char} (hc : c ∈ action.keyword.toList) :
    (97 ≤ c.toNat ∧ c.toNat ≤ 122) ∨ c = ' ' := by
  simpa using List.all_eq_true.1 action.all_keyword c hc

theorem not_mem_keyword {c : Char}
    (hletter : ¬ (97 ≤ c.toNat ∧ c.toNat ≤ 122)) (hspace : c ≠ ' ') (action : Action) :
    c ∉ action.keyword.toList :=
  fun hc => (mem_keyword hc).elim hletter hspace

theorem comma_not_mem_keyword (action : Action) : ',' ∉ action.keyword.toList :=
  not_mem_keyword (by decide) (by decide) action

theorem allLowered_keyword (action : Action) : allLowered action.keyword.toList = true := by
  refine List.all_eq_true.2 fun c hc => ?_
  rcases mem_keyword hc with ⟨hlow, hhigh⟩ | rfl
  · exact isLowered_of_code (by omega) (.inr (by omega))
  · decide

theorem keyword_ne_nil (action : Action) : action.keyword.toList ≠ [] := by
  cases action <;> decide

theorem isTrimmed_keyword (action : Action) : IsTrimmed action.keyword.toList := by
  cases action <;> decide

theorem ofKeyword?_keyword (action : Action) :
    ofKeyword? action.keyword.toList = some action := by
  rw [ofKeyword?_eq_some_iff, toAscii_eq_self action.allLowered_keyword,
    action.isTrimmed_keyword.trim, lower_eq_self action.allLowered_keyword]

end Action

namespace ActionLists

/-- A list of actions, by their keywords. -/
def written (actions : ActionSet) : List Char :=
  join [','] (actions.toList.map fun action => action.keyword.toList)

/-- The paragraph that lists mandatory actions. -/
def paragraph (actions : ActionSet) (number : UInt64) : Paragraph where
  index := number
  style := "Attribute"
  text := String.ofList (written actions)
  runs := [⟨String.ofList (written actions), true⟩]

variable {actions : ActionSet}

theorem allLowered_written : allLowered (written actions) = true := by
  refine allLowered_join (by decide) fun piece hpiece => ?_
  obtain ⟨action, _, rfl⟩ := List.mem_map.1 hpiece
  exact action.allLowered_keyword

theorem isTrimmed_written : IsTrimmed (written actions) := by
  refine isTrimmed_join (fun piece hpiece => ?_) fun piece hpiece => ?_
  · obtain ⟨action, _, rfl⟩ := List.mem_map.1 hpiece
    exact action.keyword_ne_nil
  · obtain ⟨action, _, rfl⟩ := List.mem_map.1 hpiece
    exact action.isTrimmed_keyword

theorem toAscii_written : toAscii (written actions) = written actions :=
  toAscii_eq_self allLowered_written

theorem keywords_ne_nil (hne : actions.isEmpty = false) :
    (actions.toList.map fun action => action.keyword.toList) ≠ [] := by
  intro hnil
  rw [Ascending.isEmpty, List.map_eq_nil_iff.1 hnil] at hne
  cases hne

theorem written_ne_nil (hne : actions.isEmpty = false) : written actions ≠ [] := by
  refine join_ne_nil (keywords_ne_nil hne) fun piece hpiece => ?_
  obtain ⟨action, _, rfl⟩ := List.mem_map.1 hpiece
  exact action.keyword_ne_nil

theorem items_written (hne : actions.isEmpty = false) :
    items (written actions) = actions.toList.map fun action => action.keyword.toList := by
  have hsplit : split ',' (written actions) =
      actions.toList.map fun action => action.keyword.toList := by
    refine split_join (keywords_ne_nil hne) fun piece hpiece => ?_
    obtain ⟨action, _, rfl⟩ := List.mem_map.1 hpiece
    exact action.comma_not_mem_keyword
  have htrim : ∀ action : Action, trim action.keyword.toList = action.keyword.toList :=
    fun action => action.isTrimmed_keyword.trim
  rw [items, hsplit, List.map_map]
  refine (List.filter_eq_self.2 fun piece hpiece => ?_).trans ?_
  · obtain ⟨action, _, rfl⟩ := List.mem_map.1 hpiece
    rw [Function.comp_apply, htrim, List.isEmpty_eq_false_iff.2 action.keyword_ne_nil]
    rfl
  · exact List.map_congr_left fun action _ => htrim action

theorem ofKeywords?_written (hne : actions.isEmpty = false) :
    ofKeywords? (actions.toList.map fun action => action.keyword.toList) =
      some { mandatory := actions } := by
  have hread :
      (actions.toList.map fun action => action.keyword.toList).mapM Action.ofKeyword? =
      some actions.toList := by
    have hpure : (Action.ofKeyword? ∘ fun action : Action => action.keyword.toList) =
        fun action => pure (id action) := funext Action.ofKeyword?_keyword
    rw [List.mapM_map, hpure, List.mapM_pure, List.map_id]
    rfl
  rw [ofKeywords?, List.isEmpty_eq_false_iff.2 (keywords_ne_nil hne), hread]
  exact congrArg some (congrArg (ActionLists.mk · ∅) actions.ofList_toList)

theorem trim_asciiText_paragraph (number : UInt64) :
    trim (paragraph actions number).asciiText = written actions := by
  rw [Paragraph.asciiText, paragraph, String.toList_ofList, toAscii_written,
    isTrimmed_written.trim]

theorem read?_paragraph (hne : actions.isEmpty = false) (number : UInt64) :
    read? (paragraph actions number) = some { mandatory := actions } := by
  have hbold : (paragraph actions number).boldText = written actions := by
    have htrim := isTrimmed_written.trim (s := written actions)
    simp [Paragraph.boldText, paragraph, join, htrim]
  have hstarts : (paragraph actions number).isBold = true := rfl
  rw [read?, if_pos hstarts, hbold, toAscii_written, items_written hne,
    ofKeywords?_written hne]

end ActionLists

end Omci
