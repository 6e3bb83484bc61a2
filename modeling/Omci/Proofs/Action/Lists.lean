import Omci.Proofs.Action.Reading
import Omci.Proofs.Text.Spelled

/-!
# What a list of actions says

A plain list is read entry by entry. An entry is one item, since no keyword has a
comma, and its mark is a group, so that the keyword is what is left of it; the
reading of a list is then an induction on its entries. A bold list is read as a
whole: it names its items if all of them are keywords, and nothing if one is not.

Both kinds of lists are put in ASCII first. That makes a space of every character
it has no spelling for, so a word of such characters is no item at all, and a list
goes on behind it.
-/

namespace Omci

open Text

namespace Action

variable {s : List Char} {action : Action}

theorem ofKeyword?_of_spells (h : Spells action.keyword.toList s) :
    ofKeyword? s = some action := by
  rw [ofKeyword?_eq_some_iff, lower_trim_toAscii,
    h.map_trim (toNat_lt_of_allLowered action.allLowered_keyword) action.isTrimmed_keyword]

/-- In ASCII only what spells a keyword is one. -/
theorem ofKeyword?_eq_some_iff_spells (hascii : ∀ c ∈ s, c.toNat < 128) :
    ofKeyword? s = some action ↔ Spells action.keyword.toList s := by
  refine ⟨fun h => spells_of_map_trim hascii ?_, ofKeyword?_of_spells⟩
  rwa [ofKeyword?_eq_some_iff, lower_trim_toAscii, toAscii_eq_self_of_lt hascii] at h

end Action

/-- An entry of a list of actions, which may be marked as optional. -/
structure Mention where
  action : Action
  marked : Bool
deriving DecidableEq, Repr

namespace Mention

/-- The words of an entry. -/
def words (m : Mention) : List Char :=
  m.action.keyword.toList ++ if m.marked then " (optional)".toList else []

theorem allLowered_words (m : Mention) : allLowered m.words = true := by
  refine allLowered_append m.action.allLowered_keyword ?_
  cases m.marked <;> decide

theorem words_unmarked (action : Action) : words ⟨action, false⟩ = action.keyword.toList :=
  List.append_nil _

theorem words_marked (action : Action) :
    words ⟨action, true⟩ = action.keyword.toList ++ " (optional)".toList := rfl

theorem isTrimmed_words (m : Mention) : IsTrimmed m.words := by
  obtain ⟨action, marked⟩ := m
  cases marked with
  | false => exact words_unmarked action ▸ action.isTrimmed_keyword
  | true =>
    have hmark : " (optional)".toList.getLast?.any isBlank = false := by decide
    obtain ⟨first, rest, hcons⟩ := List.exists_cons_of_ne_nil action.keyword_ne_nil
    have hstart := action.isTrimmed_keyword.1
    rw [words_marked]
    refine ⟨?_, ?_⟩
    · rw [hcons] at hstart ⊢
      exact hstart
    · rw [getLast?_append_of_ne_nil _ (by decide)]
      exact hmark

theorem comma_not_mem_words (m : Mention) : ',' ∉ m.words := by
  refine List.not_mem_append m.action.comma_not_mem_keyword ?_
  cases m.marked <;> decide

theorem words_ne_nil (m : Mention) : m.words ≠ [] :=
  List.append_ne_nil_of_left_ne_nil m.action.keyword_ne_nil _

theorem contains_words (m : Mention) : contains "optional".toList m.words = m.marked := by
  obtain ⟨action, marked⟩ := m
  cases marked with
  | false =>
    have hkeyword : contains "optional".toList action.keyword.toList = false := by
      cases action <;> decide
    rwa [words_unmarked]
  | true =>
    have hmark : contains "optional".toList " (optional)".toList = true := by decide
    exact contains_iff.2 ((contains_iff.1 hmark).trans (List.suffix_append _ _).isInfix)

theorem exists_of_map_mark {mark : List Char}
    (h : mark.map lowerAscii = " (optional)".toList) :
    ∃ inner, mark = ' ' :: '(' :: (inner ++ [')']) ∧
      inner.map lowerAscii = "optional".toList := by
  have hmark : " (optional)".toList = ' ' :: '(' :: ("optional".toList ++ [')']) := by
    decide
  rw [hmark] at h
  obtain ⟨space, _, rfl, hspace, h⟩ := List.map_eq_cons_iff.1 h
  obtain ⟨opening, _, rfl, hopening, h⟩ := List.map_eq_cons_iff.1 h
  obtain ⟨inner, _, rfl, hinner, h⟩ := List.map_eq_append_iff.1 h
  obtain ⟨closing, rfl, hclosing⟩ := List.map_eq_singleton_iff.1 h
  refine ⟨inner, ?_, hinner⟩
  rw [eq_of_lowerAscii hspace (by decide), eq_of_lowerAscii hopening (by decide),
    eq_of_lowerAscii hclosing (by decide)]

/-- Without its mark, an entry says the keyword. -/
theorem spells_replaceGroups {m : Mention} {item : List Char}
    (h : item.map lowerAscii = m.words) :
    Spells m.action.keyword.toList (replaceGroups [] item) := by
  obtain ⟨action, marked⟩ := m
  obtain ⟨word, mark, rfl, hword, hmark⟩ := List.map_eq_append_iff.1 h
  have hparen : '(' ∉ word := by
    intro hmem
    have hkept := List.mem_map_of_mem (f := lowerAscii) hmem
    rw [hword] at hkept
    exact Action.not_mem_keyword (by decide) (by decide) action hkept
  rw [replaceGroups_append _ hparen]
  cases marked with
  | false =>
    obtain rfl := List.map_eq_nil_iff.1 hmark
    exact .intro [] word [] rfl rfl hword
  | true =>
    obtain ⟨inner, rfl, hinner⟩ := exists_of_map_mark hmark
    have hclosing : ')' ∉ inner := by
      intro hmem
      have hkept := List.mem_map_of_mem (f := lowerAscii) hmem
      rw [hinner] at hkept
      exact absurd hkept (by decide)
    have hblank : replaceGroups [] (' ' :: '(' :: (inner ++ [')'])) = [' '] :=
      (replaceGroups_append [] (s := [' ']) (by decide) _).trans
        (congrArg _ (replaceGroups_group [] hclosing []))
    rw [hblank]
    exact .intro [] word [' '] rfl rfl hword

end Mention

namespace ActionLists

/-! ## Items -/

theorem items_append_cons (s rest : List Char) :
    items (s ++ ',' :: rest) = items s ++ items rest := by
  rw [items, split, splitWhere_append_cons (decide_eq_true rfl), List.map_append,
    List.filter_append]
  rfl

theorem toNat_lt_of_mem_items {s item : List Char} (hitem : item ∈ items (toAscii s)) :
    ∀ c ∈ item, c.toNat < 128 := by
  intro c hc
  obtain ⟨piece, hpiece, rfl⟩ := List.mem_map.1 (List.mem_filter.1 hitem).1
  exact toNat_lt_of_mem_toAscii (mem_splitWhere hpiece (mem_of_mem_trim hc)).1

/-- An entry is one item. -/
theorem items_of_spells {m : Mention} {item : List Char} (h : Spells m.words item) :
    ∃ word, items (toAscii item) = [word] ∧ word.map lowerAscii = m.words := by
  have hascii := toNat_lt_of_allLowered m.allLowered_words
  have hword := h.map_trim hascii m.isTrimmed_words
  have hcomma : ',' ∉ toAscii item :=
    h.not_mem hascii m.isTrimmed_words m.comma_not_mem_words (by decide)
  have hne : trim (toAscii item) ≠ [] := by
    intro hnil
    rw [hnil] at hword
    exact m.words_ne_nil hword.symm
  refine ⟨trim (toAscii item), ?_, hword⟩
  have hsplit : split ',' (toAscii item) = [toAscii item] :=
    splitWhere_of_forall_not fun c hc => decide_eq_false fun heq => hcomma (heq ▸ hc)
  rw [items, hsplit, List.map_singleton, List.filter_cons_of_pos (by simpa using hne),
    List.filter_nil]

/-! ## Plain lists -/

/-- A text that lists entries: items with commas between them, and perhaps a comma
and more behind the last, as long as this more does not begin with a keyword. -/
inductive Lists : List Mention → List Char → Prop
  | alone {m : Mention} {item : List Char} (hitem : Spells m.words item) : Lists [m] item
  | more {m : Mention} {mentions : List Mention} (item rest : List Char)
    (hitem : Spells m.words item) (hrest : Lists mentions rest) :
    Lists (m :: mentions) (item ++ ',' :: rest)
  | before {m : Mention} (item tail : List Char) (hitem : Spells m.words item)
    (hend : ∀ next ∈ (items (toAscii tail)).head?, ∀ action : Action,
      ¬ Spells action.keyword.toList (replaceGroups [] next)) :
    Lists [m] (item ++ ',' :: tail)

/-- The lists with one entry more. -/
def noting (lists : ActionLists) (m : Mention) : ActionLists :=
  if m.marked then
    { lists with optional := lists.optional.put m.action }
  else
    { lists with mandatory := lists.mandatory.put m.action }

variable {lists : ActionLists} {mentions : List Mention} {text : List Char}

theorem addItems_cons {m : Mention} {word : List Char}
    (hword : word.map lowerAscii = m.words) (rest : List (List Char)) :
    addItems lists (word :: rest) = addItems (lists.noting m) rest := by
  have hascii : ∀ c ∈ word, c.toNat < 128 := by
    intro c hc
    refine toNat_lt_of_lowerAscii (toNat_lt_of_allLowered m.allLowered_words _ ?_)
    exact hword ▸ List.mem_map_of_mem hc
  have hkeyword := Action.ofKeyword?_of_spells (Mention.spells_replaceGroups hword)
  have hmark : contains "optional".toList (lower word) = m.marked := by
    rw [lower_eq_map hascii, hword, m.contains_words]
  rw [addItems, hkeyword]
  dsimp only
  rw [hmark, noting]
  split <;> rfl

theorem addItems_of_stop {tail : List Char}
    (hend : ∀ next ∈ (items (toAscii tail)).head?, ∀ action : Action,
      ¬ Spells action.keyword.toList (replaceGroups [] next)) :
    addItems lists (items (toAscii tail)) = lists := by
  cases hitems : items (toAscii tail) with
  | nil => rfl
  | cons next rest =>
    have hascii : ∀ c ∈ replaceGroups [] next, c.toNat < 128 := by
      intro c hc
      refine toNat_lt_of_mem_items (s := tail) ?_ c
        ((mem_replaceGroupsFrom hc).resolve_left List.not_mem_nil)
      exact hitems ▸ List.mem_cons_self
    have hnone : Action.ofKeyword? (replaceGroups [] next) = none := by
      refine Option.eq_none_iff_forall_ne_some.2 fun action hsome => ?_
      refine hend next ?_ action ((Action.ofKeyword?_eq_some_iff_spells hascii).1 hsome)
      rw [hitems]
      exact rfl
    rw [addItems, hnone]

theorem addItems_of_lists (h : Lists mentions text) (lists : ActionLists) :
    addItems lists (items (toAscii text)) = mentions.foldl noting lists := by
  have hcut (item rest : List Char) : items (toAscii (item ++ ',' :: rest)) =
      items (toAscii item) ++ items (toAscii rest) := by
    rw [toAscii_append_cons (by decide), items_append_cons]
  induction h generalizing lists with
  | alone hitem =>
    obtain ⟨word, hitems, hword⟩ := items_of_spells hitem
    rw [hitems, addItems_cons hword]
    rfl
  | more _ _ hitem _ ih =>
    obtain ⟨word, hitems, hword⟩ := items_of_spells hitem
    rw [hcut, hitems, List.singleton_append, addItems_cons hword, ih, List.foldl_cons]
  | before _ _ hitem hend =>
    obtain ⟨word, hitems, hword⟩ := items_of_spells hitem
    rw [hcut, hitems, List.singleton_append, addItems_cons hword, addItems_of_stop hend]
    rfl

/-- The set that an entry goes to. -/
def listed (lists : ActionLists) (marked : Bool) : ActionSet :=
  if marked then lists.optional else lists.mandatory

theorem mem_listed_noting {m : Mention} {action : Action} {marked : Bool} :
    action ∈ ((lists.noting m).listed marked).toList ↔
      m = ⟨action, marked⟩ ∨ action ∈ (lists.listed marked).toList := by
  obtain ⟨other, mark⟩ := m
  cases mark <;> cases marked <;> simp [noting, listed, Action.mem_put_iff, eq_comm]

theorem mem_listed_foldl_noting {action : Action} {marked : Bool} :
    action ∈ ((mentions.foldl noting lists).listed marked).toList ↔
      ⟨action, marked⟩ ∈ mentions ∨ action ∈ (lists.listed marked).toList := by
  induction mentions generalizing lists with
  | nil => simp
  | cons m rest ih =>
    rw [List.foldl_cons, ih, mem_listed_noting, List.mem_cons, eq_comm (a := m),
      or_left_comm, or_assoc]

theorem isEmpty_eq_false_of_mem {action : Action} {marked : Bool}
    (h : action ∈ (lists.listed marked).toList) : lists.isEmpty = false := by
  rw [isEmpty, Bool.and_eq_false_iff]
  cases marked with
  | false => exact .inl (List.isEmpty_eq_false_iff.2 (List.ne_nil_of_mem h))
  | true => exact .inr (List.isEmpty_eq_false_iff.2 (List.ne_nil_of_mem h))

theorem mentions_ne_nil (h : Lists mentions text) : mentions ≠ [] := by
  cases h with
  | alone | more | before => exact List.cons_ne_nil _ _

/-- A plain list is read as the entries it has. -/
theorem read?_of_lists {p : Paragraph} (hplain : p.isBold = false)
    (h : Lists mentions p.text.toList) : read? p = some (mentions.foldl noting {}) := by
  have hread : addItems {} (items p.asciiText) = mentions.foldl noting {} :=
    addItems_of_lists h {}
  have hfull : (mentions.foldl noting {}).isEmpty = false := by
    obtain ⟨⟨action, marked⟩, rest, rfl⟩ := List.exists_cons_of_ne_nil (mentions_ne_nil h)
    exact isEmpty_eq_false_of_mem (mem_listed_foldl_noting.2 (.inl List.mem_cons_self))
  have hstart : ¬ p.isBold = true := Bool.eq_false_iff.1 hplain
  rw [read?, if_neg hstart]
  dsimp only
  rw [hread, hfull]
  rfl

/-! ## Bold lists -/

section Bold

variable {words : List (List Char)}

theorem mapM_ofKeyword?_eq_some_iff {actions : List Action} :
    words.mapM Action.ofKeyword? = some actions ↔
      words.map Action.ofKeyword? = actions.map some := by
  induction words generalizing actions with
  | nil => cases actions <;> simp
  | cons word rest ih =>
    cases actions with
    | nil => simp [List.mapM_cons, Option.bind_eq_some_iff]
    | cons action actions => simp [List.mapM_cons, Option.bind_eq_some_iff, ih]

theorem exists_map_some
    (h : ∀ word ∈ words, ∃ action, Action.ofKeyword? word = some action) :
    ∃ actions : List Action, words.map Action.ofKeyword? = actions.map some := by
  induction words with
  | nil => exact ⟨[], rfl⟩
  | cons word rest ih =>
    obtain ⟨action, haction⟩ := h word List.mem_cons_self
    obtain ⟨actions, hactions⟩ := ih fun word hword => h word (List.mem_cons_of_mem _ hword)
    exact ⟨action :: actions, by rw [List.map_cons, haction, hactions, List.map_cons]⟩

theorem ofKeywords?_eq_some_iff : ofKeywords? words = some lists ↔
    words ≠ [] ∧ ∃ actions : List Action, words.map Action.ofKeyword? = actions.map some ∧
      lists = { mandatory := Ascending.ofList actions } := by
  cases words with
  | nil => simp [ofKeywords?]
  | cons word rest =>
    have hfull : ¬ (word :: rest).isEmpty = true := Bool.false_ne_true
    rw [ofKeywords?, if_neg hfull, Option.map_eq_some_iff]
    simp only [mapM_ofKeyword?_eq_some_iff, eq_comm (a := lists)]
    exact (and_iff_right (List.cons_ne_nil _ _)).symm

/-- One word that is no keyword rejects them all. -/
theorem isSome_ofKeywords?_iff : (ofKeywords? words).isSome = true ↔
    words ≠ [] ∧ ∀ word ∈ words, ∃ action, Action.ofKeyword? word = some action := by
  rw [Option.isSome_iff_exists]
  constructor
  · rintro ⟨lists, hlists⟩
    obtain ⟨hne, actions, hactions, -⟩ := ofKeywords?_eq_some_iff.1 hlists
    refine ⟨hne, fun word hword => ?_⟩
    have hmem := List.mem_map_of_mem (f := Action.ofKeyword?) hword
    rw [hactions] at hmem
    obtain ⟨action, -, haction⟩ := List.mem_map.1 hmem
    exact ⟨action, haction.symm⟩
  · rintro ⟨hne, hall⟩
    obtain ⟨actions, hactions⟩ := exists_map_some hall
    exact ⟨_, ofKeywords?_eq_some_iff.2 ⟨hne, actions, hactions, rfl⟩⟩

theorem mem_mandatory_ofKeywords? (h : ofKeywords? words = some lists) {action : Action} :
    action ∈ lists.mandatory ↔ ∃ word ∈ words, Action.ofKeyword? word = some action := by
  obtain ⟨-, actions, hactions, rfl⟩ := ofKeywords?_eq_some_iff.1 h
  have hmem : action ∈ actions ↔ some action ∈ words.map Action.ofKeyword? := by
    rw [hactions]
    simp
  exact Action.mem_ofList_iff.trans (hmem.trans List.mem_map)

theorem optional_ofKeywords? (h : ofKeywords? words = some lists) : lists.optional = ∅ := by
  obtain ⟨-, actions, -, rfl⟩ := ofKeywords?_eq_some_iff.1 h
  rfl

end Bold

/-- A plain list gives the actions of its entries, the marked ones as optional. A
bold one is read if it has an item and all of its items spell a keyword, and gives
their actions as mandatory. -/
theorem lists_name_their_actions (p : Paragraph) :
    (p.isBold = false → ∀ mentions : List Mention, Lists mentions p.text.toList →
      ∃ lists, read? p = some lists ∧
        (∀ action, action ∈ lists.mandatory ↔ ⟨action, false⟩ ∈ mentions) ∧
        ∀ action, action ∈ lists.optional ↔ ⟨action, true⟩ ∈ mentions) ∧
    (p.isBold = true →
      ((read? p).isSome = true ↔ items (toAscii p.boldText) ≠ [] ∧
        ∀ item ∈ items (toAscii p.boldText), ∃ action : Action,
          Spells action.keyword.toList item) ∧
      ∀ lists, read? p = some lists → lists.optional = ∅ ∧
        ∀ action, action ∈ lists.mandatory ↔
          ∃ item ∈ items (toAscii p.boldText), Spells action.keyword.toList item) := by
  refine ⟨fun hplain mentions hlists => ?_, fun hbold => ?_⟩
  · have hmem (action : Action) (marked : Bool) :
        action ∈ ((mentions.foldl noting {}).listed marked).toList ↔
          ⟨action, marked⟩ ∈ mentions :=
      mem_listed_foldl_noting.trans (or_iff_left
        (by cases marked <;> exact List.not_mem_nil))
    exact ⟨_, read?_of_lists hplain hlists, fun action => hmem action false,
      fun action => hmem action true⟩
  · have hspells {item : List Char} (hitem : item ∈ items (toAscii p.boldText))
        (action : Action) :
        Action.ofKeyword? item = some action ↔ Spells action.keyword.toList item :=
      Action.ofKeyword?_eq_some_iff_spells (toNat_lt_of_mem_items hitem)
    have hread : read? p = ofKeywords? (items (toAscii p.boldText)) := if_pos hbold
    rw [hread]
    refine ⟨?_, fun lists hlists => ⟨optional_ofKeywords? hlists, fun action => ?_⟩⟩
    · rw [isSome_ofKeywords?_iff]
      exact and_congr_right fun _ => forall₂_congr fun _ hitem =>
        exists_congr (hspells hitem)
    · rw [mem_mandatory_ofKeywords? hlists]
      exact exists_congr fun _ => and_congr_right fun hitem => hspells hitem action

theorem lists_name_their_actions_sample :
    (∃ lists, read? ⟨1, "Attribute", "GET , Get next (optional),reboot, and others",
      []⟩ = some lists ∧
      (∀ action, action ∈ lists.mandatory ↔ action = .get ∨ action = .reboot) ∧
      ∀ action, action ∈ lists.optional ↔ action = .getNext) ∧
    read? ⟨1, "Attribute", "", [⟨"Get,", true⟩, ⟨"set, others", true⟩]⟩ = none := by
  refine ⟨?_, ?_⟩
  · have hmentions : Lists [⟨.get, false⟩, ⟨.getNext, true⟩, ⟨.reboot, false⟩]
        "GET , Get next (optional),reboot, and others".toList := by
      have hget : Spells (Mention.words ⟨.get, false⟩) "GET ".toList :=
        .intro [] "GET".toList [' '] rfl (by decide) (by decide)
      have hnext : Spells (Mention.words ⟨.getNext, true⟩) " Get next (optional)".toList :=
        .intro [' '] "Get next (optional)".toList [] (by decide) rfl (by decide)
      have hreboot : Spells (Mention.words ⟨.reboot, false⟩) "reboot".toList :=
        .intro [] "reboot".toList [] rfl rfl (by decide)
      refine .more "GET ".toList _ hget (.more " Get next (optional)".toList _ hnext
        (.before "reboot".toList " and others".toList hreboot ?_))
      intro next hnext action hspells
      obtain rfl : "and others".toList = next := Option.some.inj hnext
      have hnone : Action.ofKeyword? (replaceGroups [] "and others".toList) = none := by
        decide +kernel
      exact Option.some_ne_none _ ((Action.ofKeyword?_of_spells hspells).symm.trans hnone)
    obtain ⟨lists, hread, hmandatory, hoptional⟩ := (lists_name_their_actions
      ⟨1, "Attribute", "GET , Get next (optional),reboot, and others", []⟩).1 rfl
      _ hmentions
    refine ⟨lists, hread, fun action => ?_, fun action => ?_⟩
    · rw [hmandatory]
      simp
    · rw [hoptional]
      simp
  · have hbold := ((lists_name_their_actions
      ⟨1, "Attribute", "", [⟨"Get,", true⟩, ⟨"set, others", true⟩]⟩).2 rfl).1
    refine Option.eq_none_iff_forall_ne_some.2 fun lists hread => ?_
    obtain ⟨action, hspells⟩ :=
      (hbold.1 (hread ▸ rfl)).2 "others".toList (by decide +kernel)
    have hnone : Action.ofKeyword? "others".toList = none := by decide +kernel
    exact Option.some_ne_none _ ((Action.ofKeyword?_of_spells hspells).symm.trans hnone)

/-- A word without a spelling in ASCII does not end a list. -/
theorem lists_go_on_behind_unknown_characters :
    let p : Paragraph := ⟨1, "Attribute", "get, é, set", []⟩
    p.isBold = false ∧ p.text.toList = Action.get.keyword.toList ++ ',' ::
      " é, set".toList ∧
      (items " é, set".toList).head? = some ['é'] ∧
      (∀ action : Action, ¬ Spells action.keyword.toList (replaceGroups [] ['é'])) ∧
      read? p = some { mandatory := Ascending.ofList [.get, .set] } := by
  refine ⟨rfl, by decide, by decide, fun action hspells => ?_, by decide +kernel⟩
  have hword := hspells.map_trim (toNat_lt_of_allLowered action.allLowered_keyword)
    action.isTrimmed_keyword
  have hblank : trim (toAscii (replaceGroups [] ['é'])) = [] := by decide
  rw [hblank] at hword
  exact action.keyword_ne_nil hword.symm

end ActionLists

end Omci
