import KeyBench.Proofs.Event.Grammar
import KeyBench.Scenario

/-!
# Scenarios written down

The text that an event is shown as is an item for it, also for the comma key, whose text begins with
the comma. So a sequence is written by putting commas between the texts of its events, and blanks
after the commas if wanted, and it is read back as it was (`parseSequence_intercalate_display`).
The same holds of the batches of a scenario (`Scenario.parse_of_display`).
-/

namespace KeyBench

open Text (Blank intercalate_cons_eq)

variable {t gap : List Char} {e : Event}

/-! ## Events -/

theorem Direction.lower_display_mem_spellings (d : Direction) :
    d.display.toList.map Char.toLower ∈ d.spellings := by
  cases d <;> decide

namespace Event

/-- **The text of an event is an item for it.** -/
theorem item_display (e : Event) : Item e.display.toList e := by
  obtain ⟨k, d⟩ := e
  have hspace : " ".toList = [' '] := rfl
  have hdirection := d.lower_display_mem_spellings
  rw [display, String.toList_append, String.toList_append, hspace]
  by_cases hkey : k = .comma
  · subst hkey
    have hcomma : Key.comma.name.toList = [','] := rfl
    rw [hcomma, List.append_assoc]
    exact .comma Text.blank_nil ⟨[' '], d.display.toList, [], (List.append_nil _).symm,
      Text.blank_space, hdirection, Text.blank_nil⟩
  · exact .named hkey ⟨[], k.name.toList, [' '], d.display.toList, [], (List.append_nil _).symm,
      Text.blank_nil, rfl, Text.blank_space, List.cons_ne_nil _ _, hdirection, Text.blank_nil⟩

/-- Blanks may come before an item. -/
theorem Item.blank_append (hgap : Blank gap) (h : Item t e) : Item (gap ++ t) e := by
  cases h with
  | named hkey hwritten =>
    obtain ⟨before, name, between, word, after, rfl, hbefore, hrest⟩ := hwritten
    refine .named hkey ⟨gap ++ before, name, between, word, after, ?_, hgap.append hbefore, hrest⟩
    simp only [List.append_assoc]
  | comma hbefore hwritten =>
    rw [← List.append_assoc]
    exact .comma (hgap.append hbefore) hwritten

/-! ## Sequences -/

/-- What follows every comma can as well begin the text after it. -/
theorem intercalate_comma_cons (gap t : List Char) (ts : List (List Char)) :
    (',' :: gap).intercalate (t :: ts) = [','].intercalate (t :: ts.map (gap ++ ·)) := by
  rw [intercalate_cons_eq, intercalate_cons_eq, List.flatMap_map]
  rfl

/-- **A sequence is read back from the texts of its events**, with any blanks after the commas. -/
theorem parseSequence_intercalate_display {sep : String} (hsep : sep.toList = ',' :: gap)
    (hgap : Blank gap) (es : List Event) :
    parseSequence (sep.intercalate (es.map display)) = .ok es := by
  cases es with
  | nil => exact parseSequence_of_blank Text.blank_nil
  | cons e es =>
    have hitems : List.Forall₂ Item
        (e.display.toList :: es.map fun e => gap ++ e.display.toList) (e :: es) := by
      refine .cons e.item_display ?_
      rw [List.forall₂_map_left_iff, List.forall₂_same]
      exact fun e _ => e.item_display.blank_append hgap
    refine parseSequence_of_items (List.cons_ne_nil _ _) ?_ hitems
    rw [String.toList_intercalate, hsep, List.map_cons, List.map_cons, intercalate_comma_cons,
      List.map_map, List.map_map]
    rfl

end Event

/-! ## Scenarios -/

namespace Scenario

/-- Batches are read back if every text is read as its batch. -/
theorem parseBatches_map {write : List Event → String}
    (h : ∀ es, Event.parseSequence (write es) = .ok es) :
    ∀ batches : List (List Event), parseBatches (batches.map write) = .ok batches
  | [] => rfl
  | batch :: batches => by
    rw [List.map_cons, parseBatches, h, parseBatches_map h batches]
    rfl

theorem parse_map {write : List Event → String}
    (h : ∀ es, Event.parseSequence (write es) = .ok es) (name : String)
    (batches : List (List Event)) :
    parse name (batches.map write) = .ok (ofBatches name batches) := by
  rw [parse, parseBatches_map h]
  rfl

end Scenario

end KeyBench
