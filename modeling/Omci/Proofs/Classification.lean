import Omci.Classification

/-!
# The classifier keeps to the transitions

Which triggers a phase has a transition for is said twice: in the table of the
transitions, and by the branches of the classifier. The two are in step, since each
branch gives either failure or a trigger that has a transition, and that is all
the argument there is: a cascade suits a phase if both of its ways do, and the
cascades of the classifier are put together from verdicts that suit.

The other half is about what the classifier looks at. It reads the style and the
text of a paragraph and the short title of a table, so blocks that agree on these
mean the same.
-/

namespace Omci

open Text

/-- Blocks that agree on all that the classifier reads. -/
inductive Block.Alike : Block → Block → Prop
  | paragraphs {p q : Paragraph} (style : p.style = q.style) (text : p.text = q.text) :
    Alike (.paragraph p) (.paragraph q)
  | tables {t u : Table} (title : t.shortTitle = u.shortTitle) : Alike (.table t) (.table u)

/-- A verdict that a phase has a transition for, unless it is failure, and that
hands on no text but that of the paragraph. -/
structure Verdict.Suits (phase : Phase) (p : Paragraph) (v : Verdict) : Prop where
  trigger : v.trigger = .failure ∨ phase.next v.trigger ≠ .failure
  text : ∀ text, v.text = some text → text = String.ofList (trim p.asciiText)

namespace Verdict.Suits

variable {phase : Phase} {p : Paragraph} {trigger : Trigger} {v w : Verdict}

theorem failure : Suits phase p ⟨.failure, none⟩ :=
  ⟨.inl rfl, nofun⟩

theorem silent (h : phase.next trigger ≠ .failure) : Suits phase p ⟨trigger, none⟩ :=
  ⟨.inr h, nofun⟩

theorem speaking (h : phase.next trigger ≠ .failure) :
    Suits phase p (.speaking trigger p) :=
  ⟨.inr h, fun _ htext => (Option.some.inj htext).symm⟩

theorem ite {c : Prop} [Decidable c] (hv : Suits phase p v) (hw : Suits phase p w) :
    Suits phase p (if c then v else w) := by
  split
  · exact hv
  · exact hw

end Verdict.Suits

namespace Phase

theorem suits_classifyParagraph (phase : Phase) (p : Paragraph) :
    (phase.classifyParagraph p).Suits phase p := by
  cases phase with
  | initial =>
    exact .ite (.silent (by decide)) <| .ite (.silent (by decide)) <|
      .ite (.speaking (by decide)) <|
      .ite (.speaking (by decide)) .failure
  | description =>
    exact .ite (.silent (by decide)) <| .ite (.silent (by decide)) <|
      .ite (.speaking (by decide)) .failure
  | relationships =>
    exact .ite (.silent (by decide)) <| .ite (.speaking (by decide)) .failure
  | attributes =>
    exact .ite (.silent (by decide)) <| .ite (.speaking (by decide)) <|
      .ite (.silent (by decide)) .failure
  | actions =>
    exact .ite (.silent (by decide)) <| .ite (.speaking (by decide)) <|
      .ite (.silent (by decide)) .failure
  | notifications =>
    exact .ite (.silent (by decide)) <| .ite (.speaking (by decide)) <|
      .ite (.silent (by decide)) <|
      .ite (.silent (by decide)) <| .ite (.speaking (by decide)) .failure
  | alarms | avcs | tests =>
    exact .ite (.silent (by decide)) <| .ite (.silent (by decide)) <|
      .ite (.silent (by decide)) <|
      .ite (.speaking (by decide)) .failure
  | endOfSection | complete => exact .silent (by decide)
  | failure => exact .failure

theorem next_tableTrigger (phase : Phase) (kind : TableKind) :
    phase.tableTrigger kind = .failure ∨
    phase.next (phase.tableTrigger kind) ≠ .failure := by
  cases phase <;> cases kind <;> decide

theorem next_classify_eq_failure_iff (phase : Phase) (block : Block) :
    phase.next (phase.classify block).trigger = .failure ↔
      (phase.classify block).trigger = .failure := by
  have hverdict : (phase.classify block).trigger = .failure ∨
      phase.next (phase.classify block).trigger ≠ .failure := by
    cases block with
    | paragraph p => exact (phase.suits_classifyParagraph p).trigger
    | table t => exact phase.next_tableTrigger t.kind
  constructor
  · intro hnext
    exact hverdict.resolve_right fun hne => hne hnext
  · intro htrigger
    rw [htrigger]
    cases phase <;> rfl

theorem classify_congr (phase : Phase) {block other : Block} (h : block.Alike other) :
    phase.classify block = phase.classify other := by
  cases h with
  | @paragraphs p q style text =>
    obtain ⟨number, style, text, runs⟩ := p
    obtain ⟨_, _, _, _⟩ := q
    subst style text
    cases phase <;> rfl
  | tables title =>
    rw [classify, classify, Table.kind, Table.kind, Table.titleWords,
      Table.titleWords, title]

/-- What a phase makes of a block leads to failure only if it is failure already. It
depends on a paragraph through its style and text alone, and on a table through its
short title; and all it hands on is the text of a paragraph, in ASCII and trimmed. -/
theorem classifier_keeps_to_the_transitions (phase : Phase) :
    (∀ block, phase.next (phase.classify block).trigger = .failure ↔
      (phase.classify block).trigger = .failure) ∧
    (∀ block other : Block, block.Alike other →
      phase.classify block = phase.classify other) ∧
    (∀ t, (phase.classify (.table t)).text = none) ∧
    ∀ p text, (phase.classify (.paragraph p)).text = some text →
      text = String.ofList (trim p.asciiText) :=
  ⟨phase.next_classify_eq_failure_iff, fun _ _ => phase.classify_congr, fun _ => rfl,
    fun p => (phase.suits_classifyParagraph p).text⟩

theorem classifier_keeps_to_the_transitions_sample :
    let heading : Paragraph := ⟨1, "Heading 4", " Alarm", []⟩
    let table : Table := { number := 1, shortTitle := some "Alarms", columns := 3 }
    (notifications.classify (.paragraph heading)).text = some "Alarm" ∧
      "Alarm" = String.ofList (trim heading.asciiText) ∧
      notifications.next (notifications.classify (.paragraph heading)).trigger ≠ .failure ∧
      notifications.classify (.paragraph heading) =
        notifications.classify
          (.paragraph { heading with index := 7, runs := [⟨"Alarm", true⟩] }) ∧
      notifications.classify (.table table) =
        notifications.classify
          (.table { table with number := 7, heading := ["Alarm"] }) := by
  intro heading table
  obtain ⟨hnext, halike, -, htext⟩ := classifier_keeps_to_the_transitions notifications
  have hspoken : (notifications.classify (.paragraph heading)).text =
      some "Alarm" := by decide
  have hsound : (notifications.classify (.paragraph heading)).trigger ≠
      .failure := by decide
  exact ⟨hspoken, htext heading _ hspoken, fun hfailed => hsound ((hnext _).1 hfailed),
    halike _ _ (.paragraphs rfl rfl), halike _ _ (.tables rfl)⟩

end Phase

end Omci
