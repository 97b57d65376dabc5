import Mathlib.Data.List.Forall2
import KeyBench.Event.Notation
import KeyBench.Proofs.Key.Lookup

/-!
# The grammar of sequences

A sequence is a list of items between commas, and an item is a name and a direction
(`Event.Item`). For the comma key the item is a comma and a direction, so a blank before a comma
belongs to the piece after it. The reader goes through the pieces between commas from left to right:
it reads the pieces of an item as its event, whatever comes after them (`parseItems_append`), and it
stops at the first piece that begins no item (`Event.Fault`). Either all pieces are those of items,
or one of them is at fault (`exists_items`), so the reader accepts the grammar and nothing else
(`parseSequence_grammar`).
-/

namespace KeyBench

open Text (Blank IsWord)

variable {word name t : List Char} {d : Direction} {e : Event}

theorem comma_not_mem_of_blank (h : Blank t) : ',' ∉ t := by
  intro hc
  exact absurd (h ',' hc) (by decide)

/-! ## Directions -/

namespace Direction

/-- The words for a direction, in lower case. -/
def spellings : Direction → List (List Char)
  | .press => [['d', 'o', 'w', 'n'], ['p', 'r', 'e', 's', 's']]
  | .release => [['u', 'p'], ['r', 'e', 'l', 'e', 'a', 's', 'e']]

/-- Whether a text is a word for a direction, in any case, with blanks around it. -/
def WrittenAs (d : Direction) (t : List Char) : Prop :=
  ∃ before word after, t = before ++ word ++ after ∧ Blank before ∧
    word.map Char.toLower ∈ d.spellings ∧ Blank after

/-- **A word names a direction if it is one of its spellings**, in any case. -/
theorem ofWord?_eq_some_iff : ofWord? word = some d ↔ word.map Char.toLower ∈ d.spellings := by
  unfold ofWord?
  dsimp only
  generalize word.map Char.toLower = w
  cases d <;> simp only [spellings, List.mem_cons, List.not_mem_nil, or_false]
  · split
    · next h => rcases h with rfl | rfl <;> simp
    · split <;> simp_all
  · split
    · next h => simp [h]
    · split
      · next h => rcases h with rfl | rfl <;> simp
      · simp_all

theorem parse_eq_ok_iff : parse word = .ok d ↔ ofWord? word = some d := by
  unfold parse
  cases ofWord? word <;> simp

theorem isWord_of_mem_spellings (h : word.map Char.toLower ∈ d.spellings) : IsWord word := by
  have htable : ∀ d : Direction, ∀ w ∈ d.spellings, IsWord w := by rintro (_ | _) <;> decide
  exact Text.isWord_of_lower (htable d _ h)

theorem comma_not_mem_of_mem_spellings (h : word.map Char.toLower ∈ d.spellings) : ',' ∉ word := by
  have htable : ∀ d : Direction, ∀ w ∈ d.spellings, ',' ∉ w := by rintro (_ | _) <;> decide
  intro hc
  exact htable d _ h (List.mem_map_of_mem hc)

/-- **What is left after trimming names a direction** if nothing but blanks is around it. -/
theorem ofWord?_trim_eq_some_iff : ofWord? (Text.trim t) = some d ↔ d.WrittenAs t := by
  rw [ofWord?_eq_some_iff]
  constructor
  · intro h
    obtain ⟨before, after, ht, hbefore, hafter⟩ := Text.exists_trim t
    exact ⟨before, Text.trim t, after, ht, hbefore, h, hafter⟩
  · rintro ⟨before, word, after, rfl, hbefore, hword, hafter⟩
    have hw : IsWord word := isWord_of_mem_spellings hword
    rwa [(Text.trim_eq_word_iff hw).mpr ⟨before, after, rfl, hbefore, hafter⟩]

theorem WrittenAs.comma_not_mem (h : d.WrittenAs t) : ',' ∉ t := by
  obtain ⟨before, word, after, rfl, hbefore, hword, hafter⟩ := h
  simp only [List.mem_append, not_or]
  exact ⟨⟨comma_not_mem_of_blank hbefore, comma_not_mem_of_mem_spellings hword⟩,
    comma_not_mem_of_blank hafter⟩

end Direction

namespace Event

variable {p q before : List Char} {rest : List (List Char)} {whole : String} {cause : NotationError}

/-! ## Events -/

/-- Whether a text is the name of the key of an event and a word for its direction, both in any
case, with blanks between and around them. -/
def WrittenAs (e : Event) (t : List Char) : Prop :=
  ∃ before name between word after, t = before ++ name ++ between ++ word ++ after ∧
    Blank before ∧ name.map Char.toLower = Text.lower e.key.name ∧
    Blank between ∧ between ≠ [] ∧ word.map Char.toLower ∈ e.direction.spellings ∧ Blank after

theorem isWord_of_lower_eq {k : Key} (h : name.map Char.toLower = Text.lower k.name) :
    IsWord name := by
  refine Text.isWord_of_lower ?_
  rw [h]
  exact k.isWord_lower_name

/-- The two words of a text that is read. -/
theorem parse_eq_ok_iff_words : parse t = .ok e ↔ ∃ name word, Text.words t = [name, word] ∧
    name.map Char.toLower = Text.lower e.key.name ∧
    word.map Char.toLower ∈ e.direction.spellings := by
  have hlower : ∀ name : List Char, Text.lower (String.ofList name) = name.map Char.toLower := by
    intro name
    rw [Text.lower, String.toList_ofList]
  constructor
  · intro h
    unfold parse at h
    split at h
    · next name word hwords =>
      split at h
      · cases h
      · next key hkey =>
        split at h
        · cases h
        · next direction hdirection =>
          obtain rfl := Except.ok.inj h
          rw [Key.ofName_eq_ok_iff, hlower] at hkey
          rw [Direction.parse_eq_ok_iff, Direction.ofWord?_eq_some_iff] at hdirection
          exact ⟨name, word, hwords, hkey, hdirection⟩
    · cases h
  · rintro ⟨name, word, hwords, hname, hword⟩
    rw [← hlower, ← Key.ofName_eq_ok_iff] at hname
    rw [← Direction.ofWord?_eq_some_iff, ← Direction.parse_eq_ok_iff] at hword
    unfold parse
    rw [hwords]
    dsimp only
    rw [hname]
    dsimp only
    rw [hword]

/-- **What is read as an event is the event written in some way.** -/
theorem parse_eq_ok_iff : parse t = .ok e ↔ e.WrittenAs t := by
  rw [parse_eq_ok_iff_words]
  constructor
  · rintro ⟨name, word, hwords, hname, hword⟩
    obtain ⟨_, _, before, between, after, ht, hbefore, hbetween, hne, hafter⟩ :=
      Text.words_eq_pair_iff.mp hwords
    exact ⟨before, name, between, word, after, ht, hbefore, hname, hbetween, hne, hword, hafter⟩
  · rintro ⟨before, name, between, word, after, ht, hbefore, hname, hbetween, hne, hword, hafter⟩
    exact ⟨name, word, Text.words_eq_pair_iff.mpr ⟨isWord_of_lower_eq hname,
      Direction.isWord_of_mem_spellings hword, before, between, after, ht, hbefore, hbetween, hne,
      hafter⟩, hname, hword⟩

/-- Blanks around a text do not matter. -/
theorem parse_trim_eq_ok_iff : parse (Text.trim t) = .ok e ↔ e.WrittenAs t := by
  rw [parse_eq_ok_iff_words, Text.words_trim, ← parse_eq_ok_iff_words, parse_eq_ok_iff]

theorem WrittenAs.not_blank (h : e.WrittenAs t) : ¬Blank t := by
  rw [← Text.words_eq_nil_iff]
  obtain ⟨name, word, hwords, _⟩ := parse_eq_ok_iff_words.mp (parse_eq_ok_iff.mpr h)
  rw [hwords]
  exact List.cons_ne_nil _ _

/-- **The comma key is written with a comma, and no other key is.** -/
theorem WrittenAs.comma_mem_iff (h : e.WrittenAs t) : ',' ∈ t ↔ e.key = .comma := by
  obtain ⟨before, name, between, word, after, rfl, hbefore, hname, hbetween, _, hword, hafter⟩ := h
  have hcomma : ',' ∈ before ++ name ++ between ++ word ++ after ↔ ',' ∈ name := by
    simp only [List.mem_append, comma_not_mem_of_blank hbefore, comma_not_mem_of_blank hbetween,
      Direction.comma_not_mem_of_mem_spellings hword, comma_not_mem_of_blank hafter, false_or,
      or_false]
  rw [hcomma]
  constructor
  · intro hc
    by_contra hkey
    have hlower : ',' ∈ name.map Char.toLower := List.mem_map_of_mem hc
    rw [hname] at hlower
    exact Key.comma_not_mem_lower_name hkey hlower
  · intro hkey
    have hlower : ',' ∈ name.map Char.toLower := by
      rw [hname, hkey]
      decide
    obtain ⟨c, hc, hc'⟩ := List.mem_map.mp hlower
    rwa [Text.eq_comma_of_toLower hc'] at hc

/-! ## Items -/

/-- Whether a text is an item for an event. The comma key has no name in an item: the comma stands
for it, and it may be followed by the direction at once. -/
inductive Item : List Char → Event → Prop
  | named {t : List Char} {e : Event} : e.key ≠ .comma → e.WrittenAs t → Item t e
  | comma {before t : List Char} {d : Direction} :
      Blank before → d.WrittenAs t → Item (before ++ ',' :: t) ⟨.comma, d⟩

/-- Whether pieces between commas begin with none of an item, and what is reported then. A piece
that is not blank should be an event by itself. After one that is, there should be a direction. -/
inductive Fault (whole : String) : List (List Char) → NotationError → Prop
  | event {p : List Char} {rest : List (List Char)} {cause : NotationError} :
      ¬Blank p → parse (Text.trim p) = .error cause → Fault whole (p :: rest) cause
  | comma {p : List Char} {rest : List (List Char)} :
      Blank p → (∀ q ∈ rest.head?, ∀ d : Direction, ¬d.WrittenAs q) →
        Fault whole (p :: rest) (.event whole)

/-- The pieces of a text between commas, without blanks around them. -/
def trimmedPieces (t : List Char) : List (List Char) :=
  (Text.pieces (· == ',') t).map Text.trim

theorem parseItems_cons_of_not_blank (h : ¬Blank p) (items : List (List Char)) :
    parseItems whole (Text.trim p :: items) =
      match parse (Text.trim p) with
      | .error cause => .error cause
      | .ok event => (event :: ·) <$> parseItems whole items := by
  rw [← Text.trim_eq_nil_iff] at h
  obtain ⟨c, cs, hcs⟩ := List.exists_cons_of_ne_nil h
  rw [hcs]
  rfl

/-- **The pieces of an item are read as its event**, whatever comes after them. -/
theorem Item.parseItems_append (h : Item t e) (items : List (List Char)) :
    parseItems whole (trimmedPieces t ++ items) = (e :: ·) <$> parseItems whole items := by
  cases h with
  | named hkey hwritten =>
    rw [trimmedPieces, Text.pieces_of_not_mem (mt hwritten.comma_mem_iff.mp hkey),
      List.map_singleton, List.singleton_append, parseItems_cons_of_not_blank hwritten.not_blank,
      parse_trim_eq_ok_iff.mpr hwritten]
  | @comma before t d hbefore hwritten =>
    rw [trimmedPieces, Text.pieces_append_char, Text.pieces_of_not_mem hwritten.comma_not_mem,
      Text.pieces_of_not_mem (comma_not_mem_of_blank hbefore), List.singleton_append,
      List.map_cons, List.map_singleton, Text.trim_eq_nil_iff.mpr hbefore, List.cons_append,
      List.singleton_append, parseItems, Direction.ofWord?_trim_eq_some_iff.mpr hwritten]

theorem parseItems_items_append {texts : List (List Char)} {es : List Event}
    (h : List.Forall₂ Item texts es) (items : List (List Char)) :
    parseItems whole (texts.flatMap trimmedPieces ++ items) =
      (es ++ ·) <$> parseItems whole items := by
  induction h with
  | nil =>
    rw [List.flatMap_nil, List.nil_append]
    exact (id_map _).symm
  | cons hitem _ ih =>
    rw [List.flatMap_cons, List.append_assoc, hitem.parseItems_append, ih, ← comp_map]
    rfl

/-- **Pieces that begin with none of an item are not read.** -/
theorem Fault.parseItems_eq {pieces : List (List Char)} (h : Fault whole pieces cause) :
    parseItems whole (pieces.map Text.trim) = .error cause := by
  cases h with
  | event hblank hparse =>
    rw [List.map_cons, parseItems_cons_of_not_blank hblank, hparse]
  | @comma p rest hblank hnone =>
    rw [List.map_cons, Text.trim_eq_nil_iff.mpr hblank]
    cases rest with
    | nil => rfl
    | cons q rest =>
      rw [List.map_cons, parseItems]
      cases hd : Direction.ofWord? (Text.trim q) with
      | none => rfl
      | some d => exact absurd (Direction.ofWord?_trim_eq_some_iff.mp hd) (hnone q rfl d)

/-- **Pieces begin with those of an item, or they are at fault.** -/
theorem exists_item_or_fault (whole : String) {pieces : List (List Char)} (hne : pieces ≠ [])
    (h : ∀ p ∈ pieces, ',' ∉ p) :
    (∃ t e rest, Item t e ∧ pieces = Text.pieces (· == ',') t ++ rest) ∨
      ∃ cause, Fault whole pieces cause := by
  obtain ⟨p, rest, rfl⟩ := List.exists_cons_of_ne_nil hne
  rw [List.forall_mem_cons] at h
  by_cases hblank : Blank p
  · -- the comma after the piece stands for the comma key, so a direction must follow
    cases rest with
    | nil => exact .inr ⟨_, .comma hblank nofun⟩
    | cons q rest =>
      cases hd : Direction.ofWord? (Text.trim q) with
      | none =>
        refine .inr ⟨_, .comma hblank ?_⟩
        rintro q' ⟨⟩ d hwritten
        rw [Direction.ofWord?_trim_eq_some_iff.mpr hwritten] at hd
        cases hd
      | some d =>
        refine .inl ⟨p ++ ',' :: q, ⟨.comma, d⟩, rest,
          .comma hblank (Direction.ofWord?_trim_eq_some_iff.mp hd), ?_⟩
        rw [Text.pieces_append_char, Text.pieces_of_not_mem h.1,
          Text.pieces_of_not_mem (h.2 q List.mem_cons_self)]
        rfl
  · cases hparse : parse (Text.trim p) with
    | error cause => exact .inr ⟨cause, .event hblank hparse⟩
    | ok e =>
      have hwritten : e.WrittenAs p := parse_trim_eq_ok_iff.mp hparse
      refine .inl ⟨p, e, rest, .named (mt hwritten.comma_mem_iff.mpr h.1) hwritten, ?_⟩
      rw [Text.pieces_of_not_mem h.1]
      rfl

/-- **Pieces are those of items up to the first that are at fault.** -/
theorem exists_items (whole : String) (pieces : List (List Char)) (h : ∀ p ∈ pieces, ',' ∉ p) :
    ∃ texts es rest, List.Forall₂ Item texts es ∧
      pieces = texts.flatMap (Text.pieces (· == ',')) ++ rest ∧
      (rest = [] ∨ ∃ cause, Fault whole rest cause) := by
  by_cases hne : pieces = []
  · exact ⟨[], [], [], .nil, hne, .inl rfl⟩
  · rcases exists_item_or_fault whole hne h with ⟨t, e, rest, hitem, hpieces⟩ | hfault
    · have hlt : rest.length < pieces.length := by
        have hpos := List.length_pos_of_ne_nil (Text.pieces_ne_nil (· == ',') t)
        rw [hpieces, List.length_append]
        omega
      obtain ⟨texts, es, rest', hitems, hrest, hfault⟩ := exists_items whole rest fun p hp =>
        h p (by rw [hpieces]; exact List.mem_append_right _ hp)
      refine ⟨t :: texts, e :: es, rest', .cons hitem hitems, ?_, hfault⟩
      rw [hpieces, hrest, List.flatMap_cons, List.append_assoc]
    · exact ⟨[], [], pieces, .nil, rfl, .inr hfault⟩
termination_by pieces.length
decreasing_by exact hlt

/-! ## Sequences -/

/-- Whether a text is written for a sequence of events: it is blank, or a list of items between
commas. -/
def Sequence (t : List Char) (es : List Event) : Prop :=
  Blank t ∧ es = [] ∨ ∃ texts, texts ≠ [] ∧ t = [','].intercalate texts ∧ List.Forall₂ Item texts es

/-- Whether a text that is not blank goes wrong after some items, and what is reported then. -/
def SequenceFault (text : String) (cause : NotationError) : Prop :=
  ¬Blank text.toList ∧ ∃ texts es pieces, List.Forall₂ Item texts es ∧
    text.toList = texts.flatMap (· ++ [',']) ++ [','].intercalate pieces ∧
    (∀ p ∈ pieces, ',' ∉ p) ∧ Fault text pieces cause

variable {text : String} {es : List Event} {texts pieces : List (List Char)}

theorem parseSequence_of_blank (h : Blank text.toList) : parseSequence text = .ok [] := by
  rw [parseSequence, Text.trim_eq_nil_iff.mpr h]
  rfl

theorem parseSequence_of_not_blank (h : ¬Blank text.toList) :
    parseSequence text = parseItems text (trimmedPieces text.toList) := by
  rw [← Text.trim_eq_nil_iff, ← List.isEmpty_iff] at h
  rw [parseSequence, if_neg h]
  rfl

theorem trimmedPieces_intercalate (hne : texts ≠ []) :
    trimmedPieces ([','].intercalate texts) = texts.flatMap trimmedPieces := by
  rw [trimmedPieces, Text.pieces_intercalate hne, List.map_flatMap]
  rfl

/-- **Items between commas are read as their events.** -/
theorem parseSequence_of_items (hne : texts ≠ []) (htext : text.toList = [','].intercalate texts)
    (h : List.Forall₂ Item texts es) : parseSequence text = .ok es := by
  have hitems : parseItems text (trimmedPieces text.toList) = .ok es := by
    have hread : parseItems text (texts.flatMap trimmedPieces ++ []) = _ :=
      parseItems_items_append h []
    rw [List.append_nil, ← trimmedPieces_intercalate hne, ← htext] at hread
    rw [hread]
    show Except.ok (es ++ []) = _
    rw [List.append_nil]
  have hblank : ¬Blank text.toList := by
    intro hblank
    -- a blank text would be one blank piece, and nothing would come after it
    have hfault : Fault text [text.toList] (.event text) := .comma hblank nofun
    have hpieces := hfault.parseItems_eq
    rw [← Text.pieces_of_not_mem (comma_not_mem_of_blank hblank)] at hpieces
    rw [trimmedPieces, hpieces] at hitems
    cases hitems
  rw [parseSequence_of_not_blank hblank, hitems]

/-- **The first fault after items is reported.** -/
theorem parseSequence_of_fault (h : SequenceFault text cause) :
    parseSequence text = .error cause := by
  obtain ⟨hblank, texts, es, pieces, hitems, htext, hcomma, hfault⟩ := h
  have hne : pieces ≠ [] := by
    rintro rfl
    cases hfault
  have hpieces : trimmedPieces text.toList =
      texts.flatMap trimmedPieces ++ pieces.map Text.trim := by
    rw [trimmedPieces, htext, Text.pieces_flatMap_append,
      Text.pieces_intercalate_of_not_mem hne hcomma, List.map_append, List.map_flatMap]
    rfl
  rw [parseSequence_of_not_blank hblank, hpieces, parseItems_items_append hitems,
    hfault.parseItems_eq]
  rfl

/-- **Every text is written for a sequence, or goes wrong somewhere.** -/
theorem exists_sequence_or_fault (text : String) :
    (∃ es, Sequence text.toList es) ∨ ∃ cause, SequenceFault text cause := by
  by_cases hblank : Blank text.toList
  · exact .inl ⟨[], .inl ⟨hblank, rfl⟩⟩
  · obtain ⟨texts, es, rest, hitems, hpieces, hrest⟩ :=
      exists_items text (Text.pieces (· == ',') text.toList) fun _ => Text.not_mem_of_mem_pieces
    rcases hrest with rfl | ⟨cause, hfault⟩
    · rw [List.append_nil] at hpieces
      have hne : texts ≠ [] := by
        rintro rfl
        exact Text.pieces_ne_nil _ _ hpieces
      refine .inl ⟨es, .inr ⟨texts, hne, Text.pieces_inj (c := ',') ?_, hitems⟩⟩
      rw [hpieces, Text.pieces_intercalate hne]
    · have hcomma : ∀ p ∈ rest, ',' ∉ p := by
        intro p hp
        refine Text.not_mem_of_mem_pieces (s := text.toList) ?_
        rw [hpieces]
        exact List.mem_append_right _ hp
      have hne : rest ≠ [] := by
        rintro rfl
        cases hfault
      refine .inr ⟨cause, hblank, texts, es, rest, hitems, Text.pieces_inj (c := ',') ?_, hcomma,
        hfault⟩
      rw [hpieces, Text.pieces_flatMap_append, Text.pieces_intercalate_of_not_mem hne hcomma]

theorem parseSequence_of_sequence (h : Sequence text.toList es) : parseSequence text = .ok es := by
  rcases h with ⟨hblank, rfl⟩ | ⟨texts, hne, htext, hitems⟩
  · exact parseSequence_of_blank hblank
  · exact parseSequence_of_items hne htext hitems

/-- **The reader accepts the grammar and nothing else.** A text is read as some events if and only
if it is written for them. Any other text is refused for the first piece, from left to right, that
begins no item. -/
theorem parseSequence_grammar (text : String) :
    (∀ es, parseSequence text = .ok es ↔ Sequence text.toList es) ∧
    ∀ cause, parseSequence text = .error cause ↔ SequenceFault text cause := by
  constructor
  · refine fun es => ⟨fun h => ?_, parseSequence_of_sequence⟩
    rcases exists_sequence_or_fault text with ⟨es', hes'⟩ | ⟨cause, hfault⟩
    · have hread := h.symm.trans (parseSequence_of_sequence hes')
      rwa [Except.ok.inj hread]
    · have hread := h.symm.trans (parseSequence_of_fault hfault)
      cases hread
  · refine fun cause => ⟨fun h => ?_, parseSequence_of_fault⟩
    rcases exists_sequence_or_fault text with ⟨es, hes⟩ | ⟨cause', hfault⟩
    · have hread := h.symm.trans (parseSequence_of_sequence hes)
      cases hread
    · have hread := h.symm.trans (parseSequence_of_fault hfault)
      rwa [Except.error.inj hread]

end Event

end KeyBench
