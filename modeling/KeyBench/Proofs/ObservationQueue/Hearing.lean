import Mathlib.Data.List.Forall2
import KeyBench.ObservationQueue.Lines
import KeyBench.Proofs.Checker.Sightings
import KeyBench.Proofs.Event.Grammar
import KeyBench.Proofs.ObservationQueue.Traffic
import KeyBench.Proofs.Text.Edges

/-!
# Hearing lines

A line tells of an event by the host's name for the key and a word for the direction
(`Event.ToldAs`). The name may have blanks in it and may be a word for a direction itself, so it is
found as what comes before the last blank (`Event.ToldAs.exists_sighting`). A line with less than
two words, or with a last word that is none for a direction, tells nothing
(`Sighting.ofLine?_of_noise`).

The queue takes what the lines tell in their order, as long as there is room; the line that waits
for room is the first one that is left (`ObservationQueue.hearAll_cases`). So every event is heard
once, and nothing else is (`ObservationQueue.hearInput_of_told`).
-/

namespace KeyBench

open Text (Blank IsWord IsTrimmed)

variable {line name word : List Char} {ls : List (List Char)} {e : Event} {es : List Event}

/-! ## Lines that tell of events -/

/-- A host name in any case is not empty, and has no blank at its edges. -/
theorem Key.isTrimmed_of_lower_hostName {k : Key}
    (h : name.map Char.toLower = Text.lower k.hostName) : IsTrimmed name ∧ name ≠ [] := by
  have htable : ∀ j ∈ all, Text.lower j.hostName ≠ [] ∧
      Text.trim (Text.lower j.hostName) = Text.lower j.hostName := by decide +kernel
  obtain ⟨hne, htrim⟩ := htable k (mem_all k)
  constructor
  · refine Text.isTrimmed_of_lower ?_
    rw [h, ← htrim]
    exact Text.isTrimmed_trim _
  · rintro rfl
    exact hne h.symm

namespace Event

/-- Whether a line tells of an event: it is the host's name for the key and a word for the
direction, both in any case, with blanks between and around them. -/
def ToldAs (e : Event) (line : List Char) : Prop :=
  ∃ before name between word after, line = before ++ name ++ between ++ word ++ after ∧
    Blank before ∧ name.map Char.toLower = Text.lower e.key.hostName ∧
    Blank between ∧ between ≠ [] ∧ word.map Char.toLower ∈ e.direction.spellings ∧ Blank after

/-- Whether a line has less than two words, or its last word is none for a direction. -/
def IsNoise (line : List Char) : Prop :=
  (Text.words line).length < 2 ∨
    ∀ word ∈ (Text.words line).getLast?, ∀ d : Direction, word.map Char.toLower ∉ d.spellings

/-- Lines that tell of events, one line for each event in order, with noise anywhere. -/
inductive Told : List (List Char) → List Event → Prop
  | nil : Told [] []
  | event {e : Event} {line : List Char} {ls : List (List Char)} {es : List Event}
      (hline : e.ToldAs line) (hrest : Told ls es) : Told (line :: ls) (e :: es)
  | noise {line : List Char} {ls : List (List Char)} {es : List Event}
      (hline : IsNoise line) (hrest : Told ls es) : Told (line :: ls) es

/-- **What a line tells resolves to the event that it tells of**, also if the name has blanks. -/
theorem ToldAs.exists_sighting (h : e.ToldAs line) :
    ∃ s, Sighting.ofLine? line = some s ∧ s.TellsOf e := by
  obtain ⟨before, name, between, word, after, rfl, hbefore, hname, hbetween, hne, hword, hafter⟩ :=
    h
  obtain ⟨hnameTrimmed, hnameNe⟩ := Key.isTrimmed_of_lower_hostName hname
  have hw : IsWord word := Direction.isWord_of_mem_spellings hword
  have hedges : IsTrimmed (name ++ between ++ word) :=
    hnameTrimmed.append hnameNe between hw.isTrimmed hw.ne_nil
  have htrim :
      Text.trim (before ++ name ++ between ++ word ++ after) = name ++ between ++ word := by
    have h := hedges.trim_append hbefore hafter
    rwa [← List.append_assoc, ← List.append_assoc] at h
  -- the other blanks between the name and the word stay with the name
  obtain ⟨blanks, hblanks, hcut⟩ := Text.exists_atLastBlank?_append_word name hbetween hne hw
  have hnameTrim : Text.trim (name ++ blanks) = name :=
    hnameTrimmed.trim_append Text.blank_nil hblanks
  refine ⟨⟨String.ofList name, e.direction⟩, ?_, ?_, rfl⟩
  · rw [Sighting.ofLine?, htrim, hcut]
    dsimp only
    rw [Direction.ofWord?_eq_some_iff.mpr hword, hnameTrim]
  · rw [Key.ofHostName_eq_ok_iff, Text.lower, String.toList_ofList]
    exact hname

end Event

namespace Sighting

/-- **Noise tells nothing.** -/
theorem ofLine?_of_noise (h : Event.IsNoise line) : ofLine? line = none := by
  unfold ofLine?
  split
  · rfl
  · next name word hcut =>
    obtain ⟨hwords, hne⟩ := (Text.isTrimmed_trim line).words_eq_append hcut
    rw [Text.words_trim] at hwords
    split
    · rfl
    · next d hd =>
      rw [Direction.ofWord?_eq_some_iff] at hd
      rcases h with hfew | hlast
      · have hpos := List.length_pos_iff.mpr hne
        rw [hwords, List.length_append, List.length_singleton] at hfew
        omega
      · refine absurd hd (hlast word ?_ d)
        rw [hwords]
        exact List.getLast?_concat

/-- The sightings that lines tell. -/
def ofLines (ls : List (List Char)) : List Sighting := ls.filterMap ofLine?

theorem ofLine?_withoutReturn (line : List Char) :
    ofLine? (Text.withoutReturn line) = ofLine? line := by
  rw [ofLine?, ofLine?, Text.trim_withoutReturn]

/-- **The lines of an input tell what the lines tell that it was joined from.** -/
theorem ofLines_lines (hls : ∀ l ∈ ls, '\n' ∉ l) :
    ofLines (Text.lines (['\n'].intercalate ls)) = ofLines ls := by
  rcases List.eq_nil_or_concat' ls with rfl | ⟨init, last, rfl⟩
  · rfl
  · rw [List.forall_mem_append, List.forall_mem_singleton] at hls
    have hmap : ofLines (init.map Text.withoutReturn) = ofLines init := by
      rw [ofLines, List.filterMap_map]
      exact congrArg (init.filterMap ·) (funext ofLine?_withoutReturn)
    have hlast : ofLines (if last = [] then [] else [last]) = ofLines [last] := by
      split
      · next h =>
        rw [h]
        rfl
      · rfl
    rw [Text.lines_intercalate hls.1 last hls.2]
    unfold ofLines at hmap hlast ⊢
    rw [List.filterMap_append, List.filterMap_append, hmap, hlast]

end Sighting

/-- **Lines tell the events, each of them once and in order.** -/
theorem Event.Told.forall₂_tellsOf (h : Told ls es) :
    List.Forall₂ Sighting.TellsOf (Sighting.ofLines ls) es := by
  induction h with
  | nil => exact .nil
  | event hline _ ih =>
    obtain ⟨s, hs, htells⟩ := hline.exists_sighting
    rw [Sighting.ofLines, List.filterMap_cons_some hs]
    exact .cons htells ih
  | noise hline _ ih =>
    rw [Sighting.ofLines, List.filterMap_cons_none (Sighting.ofLine?_of_noise hline)]
    exact ih

/-! ## Hearing -/

namespace ObservationQueue

variable {q : ObservationQueue} {s : Sighting}

/-- A line that tells nothing is passed over. -/
theorem hear?_of_none {line : List Char} (h : Sighting.ofLine? line = none) :
    q.hear? line = some (.ok (), q) := by
  rw [hear?, h]

/-- A line that tells a sighting is heard at once if there is room. -/
theorem hear?_of_room {line : List Char} (hline : Sighting.ofLine? line = some s)
    (hreceiver : q.hasReceiver = true) (hroom : q.room ≠ 0) :
    q.hear? line = some (.ok (), q.taking [s]) := by
  simp only [hear?, hline]
  rw [offerPatiently?_eq_some_iff, hasRoom_iff.mpr hroom]
  exact ⟨nofun, offer_of_room hreceiver hroom s⟩

/-- It waits if there is no room. -/
theorem hear?_of_full {line : List Char} (hline : Sighting.ofLine? line = some s)
    (hreceiver : q.hasReceiver = true) (hroom : q.room = 0) : q.hear? line = none := by
  simp only [hear?, hline]
  rw [offerPatiently?_eq_none_iff, hasRoom_eq_false_iff]
  exact ⟨hreceiver, Nat.sub_eq_zero_iff_le.mp hroom⟩

/-- **What lines tell is taken as long as there is room**, and then the line that is next waits with
the others after it. -/
theorem hearAll_cases (ls : List (List Char)) (q : ObservationQueue)
    (hreceiver : q.hasReceiver = true) :
    (q.room < (Sighting.ofLines ls).length ∧ ∃ left,
      q.hearAll ls = (.waits left, q.taking ((Sighting.ofLines ls).take q.room)) ∧
      Sighting.ofLines left = (Sighting.ofLines ls).drop q.room) ∨
    ((Sighting.ofLines ls).length ≤ q.room ∧
      q.hearAll ls = (.inputClosed, q.taking (Sighting.ofLines ls))) := by
  induction ls generalizing q with
  | nil =>
    refine .inr ⟨Nat.zero_le _, ?_⟩
    rw [hearAll, Sighting.ofLines, List.filterMap_nil, taking_nil]
  | cons line ls ih =>
    cases hline : Sighting.ofLine? line with
    | none =>
      have hls : Sighting.ofLines (line :: ls) = Sighting.ofLines ls :=
        List.filterMap_cons_none hline
      rw [hearAll, hear?_of_none hline, hls]
      exact ih q hreceiver
    | some s =>
      have hls : Sighting.ofLines (line :: ls) = s :: Sighting.ofLines ls :=
        List.filterMap_cons_some hline
      rw [hls, List.length_cons]
      cases hroom : q.room with
      | zero =>
        refine .inl ⟨Nat.succ_pos _, line :: ls, ?_, hls⟩
        rw [hearAll, hear?_of_full hline hreceiver hroom, List.take_zero, taking_nil]
      | succ n =>
        -- the sighting takes one place
        have hrest : (q.taking [s]).room = n := by
          rw [room_taking, hroom]
          rfl
        have hhear : q.hear? line = some (.ok (), q.taking [s]) :=
          hear?_of_room hline hreceiver (by rw [hroom]; exact n.succ_ne_zero)
        have hcases := ih (q.taking [s]) hreceiver
        rw [hrest] at hcases
        rw [hearAll, hhear, List.take_succ_cons, List.drop_succ_cons,
          taking_cons q s ((Sighting.ofLines ls).take n), taking_cons q s (Sighting.ofLines ls)]
        rcases hcases with ⟨hlt, h⟩ | ⟨hle, h⟩
        · exact .inl ⟨Nat.succ_lt_succ hlt, h⟩
        · exact .inr ⟨Nat.succ_le_succ hle, h⟩

/-- **Every event that lines tell of is heard once and in order, and nothing else is heard.** If
there is not room for all, the events for which there is room have been heard, and the lines that
are left tell of the others. -/
theorem hearInput_of_told (hreceiver : q.hasReceiver = true) (htold : Event.Told ls es)
    (hls : ∀ l ∈ ls, '\n' ∉ l) :
    (es.length ≤ q.room → ∃ ss, List.Forall₂ Sighting.TellsOf ss es ∧
      q.hearInput (['\n'].intercalate ls) = (.inputClosed, q.taking ss)) ∧
    (q.room < es.length → ∃ ss left, List.Forall₂ Sighting.TellsOf ss (es.take q.room) ∧
      q.hearInput (['\n'].intercalate ls) = (.waits left, q.taking ss) ∧
      List.Forall₂ Sighting.TellsOf (Sighting.ofLines left) (es.drop q.room)) := by
  have htells : List.Forall₂ Sighting.TellsOf (Sighting.ofLines ls) es := htold.forall₂_tellsOf
  have hcases := q.hearAll_cases (Text.lines (['\n'].intercalate ls)) hreceiver
  rw [Sighting.ofLines_lines hls, htells.length_eq] at hcases
  constructor
  · intro hle
    rcases hcases with ⟨hlt, _⟩ | ⟨_, hheard⟩
    · exact absurd hlt (Nat.not_lt.mpr hle)
    · exact ⟨_, htells, hheard⟩
  · intro hlt
    rcases hcases with ⟨_, left, hheard, hleft⟩ | ⟨hle, _⟩
    · refine ⟨_, left, List.forall₂_take q.room htells, hheard, ?_⟩
      rw [hleft]
      exact List.forall₂_drop q.room htells
    · exact absurd hlt (Nat.not_lt.mpr hle)

/-- Two events among noise, with blanks and letters of several kinds. -/
def noisyLines : List (List Char) :=
  ["\u3000LEFT Shift\t DOWN \r".toList, "mouse moved".toList, "up".toList,
    "page up\u00a0uP".toList, []]

/-- What the lines tell fits a queue for two observations, and does not fit one for a single
observation. -/
theorem hearInput_of_told_noisyLines :
    Event.Told noisyLines [.press .leftShift, .release .pageUp] ∧
    (∀ l ∈ noisyLines, '\n' ∉ l) ∧
    ((ofCapacity 2).hasReceiver = true ∧ 2 ≤ (ofCapacity 2).room ∧
      ∃ ss, List.Forall₂ Sighting.TellsOf ss [.press .leftShift, .release .pageUp] ∧
        (ofCapacity 2).hearInput (['\n'].intercalate noisyLines) =
          (.inputClosed, (ofCapacity 2).taking ss)) ∧
    ((ofCapacity 1).hasReceiver = true ∧ (ofCapacity 1).room < 2 ∧
      ∃ ss left, List.Forall₂ Sighting.TellsOf ss [.press .leftShift] ∧
        (ofCapacity 1).hearInput (['\n'].intercalate noisyLines) =
          (.waits left, (ofCapacity 1).taking ss) ∧
        List.Forall₂ Sighting.TellsOf (Sighting.ofLines left) [.release .pageUp]) := by
  have hshift : (Event.press .leftShift).ToldAs "\u3000LEFT Shift\t DOWN \r".toList :=
    ⟨['\u3000'], "LEFT Shift".toList, ['\t', ' '], "DOWN".toList, [' ', '\r'],
      by decide +kernel⟩
  have hpageUp : (Event.release .pageUp).ToldAs "page up\u00a0uP".toList :=
    ⟨[], "page up".toList, ['\u00a0'], "uP".toList, [], by decide +kernel⟩
  have hmouse : Event.IsNoise "mouse moved".toList := by
    refine .inr ?_
    rintro _ ⟨⟩ (_ | _) <;> decide
  have htold : Event.Told noisyLines [.press .leftShift, .release .pageUp] :=
    .event hshift (.noise hmouse (.noise (.inl (by decide)) (.event hpageUp
      (.noise (.inl (by decide)) .nil))))
  have hls : ∀ l ∈ noisyLines, '\n' ∉ l := by decide
  have hwide : (ofCapacity 2).hasReceiver = true := rfl
  have hnarrow : (ofCapacity 1).hasReceiver = true := rfl
  exact ⟨htold, hls, ⟨hwide, by decide, (hearInput_of_told hwide htold hls).1 (by decide)⟩,
    hnarrow, by decide, (hearInput_of_told hnarrow htold hls).2 (by decide)⟩

end ObservationQueue

end KeyBench
