import Mathlib.Data.List.Induction
import Mathlib.Order.Bounds.Basic
import KeyBench.Proofs.Event.Histories
import KeyBench.Proofs.Key.Lookup

/-!
# The first fault of a sequence

A sequence is played with the set of the keys that are down, and stops at the first event that is
not a move of its key (`move?`). Up to there the events can still be completed: the keys that are
down go up one after the other (`begins_iff`). With that event they no longer can, so the index that
is blamed is the least one of this sort (`isLeast_of_cut`). If there is none, all events are played,
and the keys that are down then are those whose last event is a press (`mem_heldAfter?_iff`).
-/

namespace KeyBench

namespace Event

variable {e : Event} {es past rest : List Event} {held held' : List Key} {index : Nat} {k : Key}

/-! ## Strokes of a key -/

/-- Events of one key alternate if they are some number of strokes, a press and a release each. -/
theorem alternates_false_iff_strokes : ∀ {es : List Event}, (∀ e ∈ es, e.key = k) →
    (Alternates false es ↔ ∃ n, es = (List.replicate n [press k, release k]).flatten)
  | [], _ => by
    simp only [Alternates, true_iff]
    exact ⟨0, rfl⟩
  | [e], _ => by
    simp only [Alternates, Bool.not_false, Bool.true_eq_false, and_false, false_iff]
    rintro ⟨n, hn⟩
    have hlength := congrArg List.length hn
    simp at hlength
    omega
  | ⟨j, d⟩ :: ⟨j', d'⟩ :: es, hkey => by
    obtain rfl : k = j := (hkey _ List.mem_cons_self).symm
    obtain rfl : k = j' := (hkey ⟨j', d'⟩ (by simp)).symm
    have hrest : ∀ e ∈ es, e.key = k := fun e he =>
      hkey e (List.mem_cons_of_mem _ (List.mem_cons_of_mem _ he))
    simp only [Alternates, Bool.not_false, Bool.not_true, alternates_false_iff_strokes hrest]
    constructor
    · rintro ⟨hd, hd', n, rfl⟩
      refine ⟨n + 1, ?_⟩
      cases d <;> cases d' <;> simp_all [isPress, press, release, List.replicate_succ]
    · rintro ⟨n, hn⟩
      cases n with
      | zero => cases hn
      | succ n =>
        simp only [List.replicate_succ, List.flatten_cons, List.cons_append, List.nil_append,
          List.cons.injEq] at hn
        obtain ⟨he, he', rfl⟩ := hn
        rw [he, he']
        refine ⟨?_, ?_, n, rfl⟩ <;> simp [isPress, press, release]

/-! ## Playing a part -/

/-- The keys that are down after an event. There are none if the event finds its key as it leaves
it. -/
def move? (held : List Key) : Event → Option (List Key)
  | ⟨k, .press⟩ => if k ∈ held then none else some (k :: held)
  | ⟨k, .release⟩ => if k ∈ held then some (held.erase k) else none

/-- The keys that are down after some events, if each of them is a move. -/
def heldAfter? (held : List Key) (es : List Event) : Option (List Key) := es.foldlM move? held

/-- What is reported of an event that is no move. -/
def blame (index : Nat) : Event → PlayError
  | ⟨k, .press⟩ => .pressedTwice k index
  | ⟨k, .release⟩ => .releasedUnpressed k index

theorem blame_inj {i j : Nat} {f : Event} (h : blame i e = blame j f) : i = j ∧ e = f := by
  obtain ⟨k, d⟩ := e
  obtain ⟨k', d'⟩ := f
  cases d <;> cases d' <;> simp_all [blame]

theorem checkFrom_cons_of_some (h : move? held e = some held') :
    checkFrom held index (e :: es) = checkFrom held' (index + 1) es := by
  obtain ⟨k, d⟩ := e
  cases d <;> simp only [move?] at h <;> split at h <;> simp_all [checkFrom]

theorem checkFrom_cons_of_none (h : move? held e = none) :
    checkFrom held index (e :: es) = .error (blame index e) := by
  obtain ⟨k, d⟩ := e
  cases d <;> simp only [move?] at h <;> split at h <;> simp_all [checkFrom, blame]

/-- **Events are played one after the other, as long as each is a move.** -/
theorem checkFrom_append : ∀ {past : List Event} {held : List Key} {index : Nat},
    heldAfter? held past = some held' →
      checkFrom held index (past ++ rest) = checkFrom held' (index + past.length) rest
  | [], held, index, h => by
    obtain rfl := Option.some.inj h
    rfl
  | e :: past, held, index, h => by
    rw [heldAfter?, List.foldlM_cons, Option.bind_eq_bind, Option.bind_eq_some_iff] at h
    obtain ⟨next, hmove, hpast⟩ := h
    rw [List.cons_append, checkFrom_cons_of_some hmove, checkFrom_append hpast, List.length_cons]
    congr 1
    omega

/-- Events that are not all moves have a first one that is none. -/
theorem exists_cut_of_heldAfter?_eq_none : ∀ {es : List Event} {held : List Key},
    heldAfter? held es = none →
      ∃ past e rest held', es = past ++ e :: rest ∧ heldAfter? held past = some held' ∧
        move? held' e = none
  | [], _, h => nomatch h
  | e :: es, held, h => by
    rw [heldAfter?, List.foldlM_cons, Option.bind_eq_bind, Option.bind_eq_none_iff] at h
    cases hmove : move? held e with
    | none => exact ⟨[], e, es, held, rfl, rfl, hmove⟩
    | some next =>
      obtain ⟨past, f, rest, held', rfl, hpast, hf⟩ :=
        exists_cut_of_heldAfter?_eq_none (h next hmove)
      refine ⟨e :: past, f, rest, held', rfl, ?_, hf⟩
      rw [heldAfter?, List.foldlM_cons, hmove]
      exact hpast

/-! ## What can be completed -/

/-- Whether a sequence that can be played begins with some events. -/
def Begins (es : List Event) : Prop := ∃ rest, checkSequence (es ++ rest) = .ok ()

/-- The keys that are down can all go up. -/
theorem checkFrom_map_release : ∀ {held : List Key} {index : Nat},
    checkFrom held index (held.map release) = .ok ()
  | [], _ => checkFrom_nil.mpr fun _ => List.not_mem_nil
  | k :: held, index => by
    have hmove : move? (k :: held) (release k) = some held := by simp [move?, release]
    rw [List.map_cons, checkFrom_cons_of_some hmove]
    exact checkFrom_map_release

/-- **Events can be completed to a sequence that can be played if and only if each of them is a
move.** -/
theorem begins_iff : Begins es ↔ ∃ held, heldAfter? [] es = some held := by
  constructor
  · rintro ⟨rest, hplay⟩
    cases h : heldAfter? [] es with
    | some held => exact ⟨held, rfl⟩
    | none =>
      obtain ⟨past, e, later, held, rfl, hpast, he⟩ := exists_cut_of_heldAfter?_eq_none h
      rw [checkSequence, List.append_assoc, List.cons_append, checkFrom_append hpast,
        checkFrom_cons_of_none he] at hplay
      cases hplay
  · rintro ⟨held, h⟩
    refine ⟨held.map release, ?_⟩
    rw [checkSequence, checkFrom_append h]
    exact checkFrom_map_release

/-- Once all events are played, only the keys that are still down matter. -/
theorem checkSequence_of_heldAfter? (h : heldAfter? [] es = some held) :
    checkSequence es = checkFrom held (0 + es.length) [] := by
  rw [checkSequence, ← checkFrom_append h, List.append_nil]

theorem Begins.take (h : Begins es) (n : Nat) : Begins (es.take n) := by
  obtain ⟨rest, hrest⟩ := h
  refine ⟨es.drop n ++ rest, ?_⟩
  rwa [← List.append_assoc, List.take_append_drop]

/-- **The first event that is no move is the first one with which the events cannot be
completed.** -/
theorem isLeast_of_cut (hpast : heldAfter? [] past = some held) (he : move? held e = none) :
    IsLeast {i | ¬Begins ((past ++ e :: rest).take (i + 1))} past.length := by
  constructor
  · rw [Set.mem_ofPred_eq, List.take_length_add_append, List.take_succ_cons, List.take_zero,
      begins_iff]
    rintro ⟨held', h⟩
    rw [heldAfter?, List.foldlM_append] at h
    have hpast' : past.foldlM move? [] = some held := hpast
    simp [hpast', he] at h
  · intro i hi
    by_contra hlt
    rw [Nat.not_le] at hlt
    rw [Set.mem_ofPred_eq, List.take_append_of_le_length hlt] at hi
    exact hi (Begins.take (begins_iff.mpr ⟨held, hpast⟩) _)

/-! ## What is down at the end -/

/-- Whether the last event of a key leaves it down. -/
def LeftDown (k : Key) (es : List Event) : Prop := (history k es).getLast? = some (press k)

theorem nodup_of_move? (hheld : held.Nodup) (h : move? held e = some held') : held'.Nodup := by
  obtain ⟨k, d⟩ := e
  cases d <;> simp only [move?] at h <;> split at h <;> cases h
  · exact hheld.erase k
  · next hk => exact List.nodup_cons.mpr ⟨hk, hheld⟩

/-- A move turns its key and no other. -/
theorem mem_of_move?_iff (hheld : held.Nodup) (h : move? held e = some held') :
    k ∈ held' ↔ if e.key = k then e.isPress = true else k ∈ held := by
  obtain ⟨j, d⟩ := e
  by_cases hk : j = k
  · subst hk
    cases d <;> simp only [move?] at h <;> split at h <;> cases h <;>
      simp [isPress, hheld.mem_erase_iff]
  · cases d <;> simp only [move?] at h <;> split at h <;> cases h <;>
      simp [hk, Ne.symm hk, hheld.mem_erase_iff]

/-- **The keys that are down are those whose last event is a press.** -/
theorem mem_heldAfter?_iff (h : heldAfter? [] es = some held) :
    held.Nodup ∧ ∀ k, k ∈ held ↔ LeftDown k es := by
  induction es using List.reverseRecOn generalizing held with
  | nil =>
    obtain rfl := Option.some.inj h
    simp [LeftDown, history]
  | append_singleton es e ih =>
    rw [heldAfter?, List.foldlM_append] at h
    obtain ⟨before, hbefore, hmove⟩ := Option.bind_eq_some_iff.mp h
    simp only [List.foldlM_cons, List.foldlM_nil, bind_pure] at hmove
    obtain ⟨hnodup, hmem⟩ := ih hbefore
    refine ⟨nodup_of_move? hnodup hmove, fun k => ?_⟩
    rw [mem_of_move?_iff hnodup hmove, LeftDown, history_append]
    obtain ⟨j, d⟩ := e
    by_cases hk : j = k
    · subst hk
      cases d <;> simp [history, isPress, press]
    · have hother : history k [⟨j, d⟩] = [] := by simp [history, hk]
      rw [if_neg hk, hother, List.append_nil]
      exact hmem k

/-! ## What is reported -/

theorem checkFrom_nil_eq_leftPressed_iff :
    checkFrom held index [] = .error (.leftPressed k) ↔
      k ∈ held ∧ ∀ j ∈ held, k.slot ≤ j.slot := by
  have hfind := Key.find?_all_eq_some_iff (p := held.contains) (k := k)
  simp only [List.contains_iff_mem] at hfind
  rw [← hfind, checkFrom]
  cases Key.all.find? held.contains with
  | some j => simp
  | none => simp

/-- At the end no event is blamed any more. -/
theorem checkFrom_nil_ne_blame (i : Nat) (e : Event) :
    checkFrom held index [] ≠ .error (blame i e) := by
  obtain ⟨k, d⟩ := e
  rw [checkFrom]
  split <;> cases d <;> simp [blame]

/-- **An event is blamed if and only if it is the first one with which the events cannot be
completed.** -/
theorem checkSequence_eq_blame_iff {i : Nat} : checkSequence es = .error (blame i e) ↔
    IsLeast {i | ¬Begins (es.take (i + 1))} i ∧ es[i]? = some e := by
  cases h : heldAfter? [] es with
  | some held =>
    -- all events are played, and every part of them can be completed
    have hbegins : Begins es := begins_iff.mpr ⟨held, h⟩
    simp only [checkSequence_of_heldAfter? h, checkFrom_nil_ne_blame, false_iff]
    rintro ⟨⟨hnot, _⟩, _⟩
    exact hnot (hbegins.take _)
  | none =>
    obtain ⟨past, f, rest, held, rfl, hpast, hf⟩ := exists_cut_of_heldAfter?_eq_none h
    rw [checkSequence, checkFrom_append hpast, checkFrom_cons_of_none hf, Nat.zero_add]
    constructor
    · intro hblame
      obtain ⟨rfl, rfl⟩ := blame_inj (Except.error.inj hblame)
      exact ⟨isLeast_of_cut hpast hf, by simp⟩
    · rintro ⟨hleast', he⟩
      obtain rfl := (isLeast_of_cut hpast hf).unique hleast'
      have hf : f = e := by simpa using he
      rw [hf]

/-- **A key is blamed at the end if and only if the events can be completed, and of the keys that
they leave down it has the lowest slot.** -/
theorem checkSequence_eq_leftPressed_iff : checkSequence es = .error (.leftPressed k) ↔
    (∀ i, Begins (es.take (i + 1))) ∧ LeftDown k es ∧ ∀ j, LeftDown j es → k.slot ≤ j.slot := by
  cases h : heldAfter? [] es with
  | some held =>
    have hbegins : Begins es := begins_iff.mpr ⟨held, h⟩
    simp only [checkSequence_of_heldAfter? h, checkFrom_nil_eq_leftPressed_iff,
      (mem_heldAfter?_iff h).2]
    exact (and_iff_right fun i => hbegins.take _).symm
  | none =>
    obtain ⟨past, f, rest, held, rfl, hpast, hf⟩ := exists_cut_of_heldAfter?_eq_none h
    rw [checkSequence, checkFrom_append hpast, checkFrom_cons_of_none hf]
    constructor
    · intro hblame
      obtain ⟨j, d⟩ := f
      cases d <;> cases hblame
    · rintro ⟨hbegins, _⟩
      exact absurd (hbegins _) (isLeast_of_cut hpast hf).1

/-- **A sequence is decided by the histories of the keys, and its first fault is reported.** It can
be played if and only if every history is a number of strokes. An event is blamed if and only if it
is the first one with which the events are not the beginning of a sequence that can be played; the
error tells its index and its key, and whether it is a press or a release. If there is no such
event, a key that is left down is blamed, and of all these the one with the lowest slot. -/
theorem first_fault_reported (es : List Event) :
    (checkSequence es = .ok () ↔
      ∀ k, ∃ n, history k es = (List.replicate n [press k, release k]).flatten) ∧
    (∀ k i, checkSequence es = .error (.pressedTwice k i) ↔
      IsLeast {i | ¬Begins (es.take (i + 1))} i ∧ es[i]? = some (press k)) ∧
    (∀ k i, checkSequence es = .error (.releasedUnpressed k i) ↔
      IsLeast {i | ¬Begins (es.take (i + 1))} i ∧ es[i]? = some (release k)) ∧
    (∀ k, checkSequence es = .error (.leftPressed k) ↔
      (∀ i, Begins (es.take (i + 1))) ∧ LeftDown k es ∧ ∀ j, LeftDown j es → k.slot ≤ j.slot) := by
  refine ⟨?_, ?_, ?_, ?_⟩
  · rw [checkSequence_eq_ok_iff]
    refine forall_congr' fun k => alternates_false_iff_strokes fun e he => ?_
    simpa using List.of_mem_filter he
  · intro k i
    exact checkSequence_eq_blame_iff (e := press k)
  · intro k i
    exact checkSequence_eq_blame_iff (e := release k)
  · exact fun k => checkSequence_eq_leftPressed_iff

end Event

end KeyBench
