import KeyBench.Proofs.Event.Grammar

/-!
# Sequences of one event

An event is written by itself or as a sequence of one event. By itself it is two words. In a
sequence the comma key has no name, its comma is one that separates items (`Event.Item`), and
nothing has to be between the comma and the direction. This is all that the two notations differ in
(`writtenAs_iff_item`), so the reader of events and the reader of sequences disagree on texts like
`,down` and on no other (`parse_eq_ok_iff_parseSequence`).
-/

namespace KeyBench.Event

open Text (Blank)

variable {text : String} {t name : List Char} {e : Event}

/-- **A text is read as a sequence of one event if it is an item.** -/
theorem parseSequence_eq_singleton_iff : parseSequence text = .ok [e] ↔ Item text.toList e := by
  constructor
  · intro h
    rcases exists_sequence_or_fault text with ⟨es, hes⟩ | ⟨cause, hfault⟩
    · have hread := h.symm.trans (parseSequence_of_sequence hes)
      obtain rfl := Except.ok.inj hread
      rcases hes with ⟨_, hnil⟩ | ⟨texts, _, htext, hitems⟩
      · cases hnil
      · -- one event comes of one item, and there is nothing to join
        obtain ⟨item, rest, hitem, hrest, rfl⟩ := List.forall₂_cons_right_iff.mp hitems
        rw [List.forall₂_nil_right_iff] at hrest
        subst hrest
        rwa [htext, List.intercalate_singleton]
    · have hread := h.symm.trans (parseSequence_of_fault hfault)
      cases hread
  · intro h
    refine parseSequence_of_items (List.cons_ne_nil text.toList []) ?_ (.cons h .nil)
    rw [List.intercalate_singleton]

/-! ## The comma key -/

/-- Whether the event is one of the comma key, and the text has a word for its direction right after
a comma. -/
def RunsOn (e : Event) (t : List Char) : Prop :=
  e.key = .comma ∧ ∃ before word after, t = before ++ ',' :: (word ++ after) ∧
    word.map Char.toLower ∈ e.direction.spellings

theorem lower_name_comma : Text.lower Key.comma.name = [','] := by decide

/-- The name of the comma key has one spelling. -/
theorem eq_comma_of_lower_eq (h : name.map Char.toLower = Text.lower Key.comma.name) :
    name = [','] := by
  rw [lower_name_comma] at h
  obtain ⟨c, rfl, hc⟩ := List.map_eq_singleton_iff.mp h
  rw [Text.eq_comma_of_toLower hc]

/-- An event of the comma key is a comma and a direction with blanks between them. -/
theorem WrittenAs.exists_comma (h : e.WrittenAs t) (hkey : e.key = .comma) :
    ∃ before between word after, t = before ++ ',' :: (between ++ word ++ after) ∧ Blank before ∧
      Blank between ∧ between ≠ [] ∧ word.map Char.toLower ∈ e.direction.spellings ∧
      Blank after := by
  obtain ⟨before, name, between, word, after, rfl, hbefore, hname, hbetween, hne, hword, hafter⟩ :=
    h
  rw [hkey] at hname
  obtain rfl := eq_comma_of_lower_eq hname
  refine ⟨before, between, word, after, ?_, hbefore, hbetween, hne, hword, hafter⟩
  simp only [List.append_assoc, List.cons_append, List.nil_append]

/-- So in an event by itself the direction does not follow the comma at once. -/
theorem WrittenAs.not_runsOn (h : e.WrittenAs t) : ¬e.RunsOn t := by
  rintro ⟨hkey, before', word', after', ht', hword'⟩
  obtain ⟨before, between, word, after, rfl, hbefore, hbetween, hne, hword, hafter⟩ :=
    h.exists_comma hkey
  have hdirection : e.direction.WrittenAs (between ++ word ++ after) :=
    ⟨between, word, after, rfl, hbetween, hword, hafter⟩
  -- the text has one comma, so what follows it would begin with a blank and with a word
  obtain ⟨_, _, hrest⟩ := (List.append_cons_inj_of_notMem
    (comma_not_mem_of_blank hbefore) hdirection.comma_not_mem).mp ht'
  obtain ⟨b, bs, rfl⟩ := List.exists_cons_of_ne_nil hne
  have hw : Text.IsWord word' := Direction.isWord_of_mem_spellings hword'
  obtain ⟨c, cs, rfl⟩ := List.exists_cons_of_ne_nil hw.ne_nil
  obtain ⟨rfl, _⟩ := List.cons.inj hrest
  have hb := hw.isBlank_eq_false b List.mem_cons_self
  rw [hbetween b List.mem_cons_self] at hb
  cases hb

/-- **A text is an event by itself if it is an item** in which the direction does not follow the
comma at once. -/
theorem writtenAs_iff_item : e.WrittenAs t ↔ Item t e ∧ ¬e.RunsOn t := by
  constructor
  · intro h
    refine ⟨?_, h.not_runsOn⟩
    by_cases hkey : e.key = .comma
    · obtain ⟨before, between, word, after, rfl, hbefore, hbetween, _, hword, hafter⟩ :=
        h.exists_comma hkey
      obtain ⟨k, d⟩ := e
      obtain rfl : k = .comma := hkey
      exact .comma hbefore ⟨between, word, after, rfl, hbetween, hword, hafter⟩
    · exact .named hkey h
  · rintro ⟨hitem, hnot⟩
    cases hitem with
    | named _ hwritten => exact hwritten
    | @comma before rest d hbefore hwritten =>
      obtain ⟨between, word, after, rfl, hbetween, hword, hafter⟩ := hwritten
      refine ⟨before, [','], between, word, after, ?_, hbefore, lower_name_comma.symm, hbetween,
        ?_, hword, hafter⟩
      · simp only [List.append_assoc, List.cons_append, List.nil_append]
      · rintro rfl
        exact hnot ⟨rfl, before, word, after, rfl, hword⟩

/-- **The reader of events and the reader of sequences agree but for one spelling.** A text is read
as an event if and only if it is read as the sequence of this one event, unless the event is one of
the comma key and its direction follows the comma at once. -/
theorem parse_eq_ok_iff_parseSequence (text : String) (e : Event) :
    parse text.toList = .ok e ↔ parseSequence text = .ok [e] ∧ ¬e.RunsOn text.toList := by
  rw [parse_eq_ok_iff, writtenAs_iff_item, parseSequence_eq_singleton_iff]

end KeyBench.Event
