import KeyBench.Proofs.Forecast.Renaming
import KeyBench.Proofs.Interleaving.Balance

/-!
# Interleavings of renamed keys

An interleaving of a list of keys rests on which places of the list hold the same key, and not on
which key that is. Take the renamed keys instead, with different names for different keys. Then the
two runs go side by side: at every turn the same places are legal, so the same number is drawn from
the same source, the event at the same place is taken, and the stages that are left differ only in
the names (`Stage.turn?_rename`). So the runs take the same events apart from the names, and leave
the source at the same point (`ofKeys_map`).
-/

namespace KeyBench

variable {f : Key → Key}

/-! ## Bags -/

namespace Bag

variable {α β : Type} (g : α → β)

theorem lastFirst_map (xs : List α) : lastFirst (xs.map g) = (lastFirst xs).map g := by
  rw [lastFirst, lastFirst, List.getLast?_map, ← List.map_dropLast]
  cases xs.getLast? <;> rfl

theorem removeAt_map : ∀ (xs : List α) (i : Nat), removeAt (xs.map g) i = (removeAt xs i).map g
  | [], _ => rfl
  | _ :: xs, 0 => lastFirst_map g xs
  | x :: xs, i + 1 => congrArg (g x :: ·) (removeAt_map xs i)

end Bag

namespace Interleaving

variable {ρ : Type} {draw : Draw ρ} {s t : Stage ρ} {es : List Event}

/-! ## Legal places -/

theorem isLegal_rename (hf : Function.Injective f) (held : List Key) (e : Event) :
    isLegal (held.map f) (e.rename f) = isLegal held e := by
  have hdown : (held.map f).contains (f e.key) = held.contains e.key := by
    rw [Bool.eq_iff_iff, List.contains_iff_mem, List.contains_iff_mem,
      List.mem_map_of_injective hf]
  rw [isLegal, isLegal, Event.rename, hdown]
  rfl

theorem map_cast_finRange {m n : Nat} (h : m = n) :
    (List.finRange m).map (Fin.cast h) = List.finRange n := by
  subst h
  exact List.map_id _

/-- Among as many members the one at the same place is drawn, and the source moves on alike. -/
theorem drawn_map {α β : Type} (draw : Draw ρ) (r : ρ) (g : α → β) (x : α) (xs : List α) :
    (g x :: xs.map g).get (draw r (xs.map g).length).1 = g ((x :: xs).get (draw r xs.length).1) ∧
      (draw r (xs.map g).length).2 = (draw r xs.length).2 := by
  have hval : ((draw r (xs.map g).length).1 : Nat) = (draw r xs.length).1 := by
    rw [List.length_map]
  constructor
  · simp only [List.get_eq_getElem, hval, ← List.map_cons, List.getElem_map]
  · rw [List.length_map]

/-! ## Turns -/

namespace Stage

/-- The stage with the keys renamed. -/
def rename (f : Key → Key) (s : Stage ρ) : Stage ρ :=
  ⟨s.source, s.held.map f, s.pool.map (Event.rename f)⟩

/-- The same place in the renamed pool. -/
def renamedPlace (f : Key → Key) (place : Fin s.pool.length) : Fin (s.rename f).pool.length :=
  place.cast (List.length_map _).symm

theorem get_renamedPlace (place : Fin s.pool.length) :
    (s.rename f).pool.get (renamedPlace f place) = (s.pool.get place).rename f := by
  simp [renamedPlace, rename]

/-- **The same places are legal.** -/
theorem legalPlaces_rename (hf : Function.Injective f) (s : Stage ρ) :
    legalPlaces (s.rename f).held (s.rename f).pool =
      (legalPlaces s.held s.pool).map (renamedPlace f) := by
  have hlength : s.pool.length = (s.rename f).pool.length := (List.length_map _).symm
  have hrange : List.finRange (s.rename f).pool.length =
      (List.finRange s.pool.length).map (renamedPlace f) := (map_cast_finRange hlength).symm
  rw [legalPlaces_eq, legalPlaces_eq, hrange, List.filter_map]
  congr 2
  funext place
  have hevent : (s.rename f).pool[renamedPlace f place] = (s.pool.get place).rename f :=
    get_renamedPlace place
  rw [Function.comp_apply, hevent]
  exact isLegal_rename hf s.held (s.pool.get place)

theorem take_rename (hf : Function.Injective f) (place : Fin s.pool.length) (r : ρ) :
    (s.rename f).take (renamedPlace f place) r = (s.take place r).rename f := by
  obtain ⟨⟨k, d⟩, he⟩ : ∃ e, s.pool[place] = e := ⟨_, rfl⟩
  have hrenamed : (s.rename f).pool[renamedPlace f place] = Event.rename f ⟨k, d⟩ :=
    (get_renamedPlace place).trans (congrArg (Event.rename f) he)
  cases d with
  | press =>
    rw [take_press r he, take_press r hrenamed]
    simp [rename, renamedPlace, Bag.removeAt_map, Event.rename, Event.release]
  | release =>
    rw [take_release r he, take_release r hrenamed]
    simp [rename, renamedPlace, Bag.removeAt_map, List.map_erase hf]

/-- **A turn of the renamed stage is the renamed turn**, and there is none if there was none. -/
theorem turn?_rename (hf : Function.Injective f) (s : Stage ρ) :
    (s.rename f).turn? draw = (s.turn? draw).map (Prod.map (Event.rename f) (rename f)) := by
  have hplaces := legalPlaces_rename hf s
  cases hlegal : legalPlaces s.held s.pool with
  | nil =>
    rw [hlegal] at hplaces
    rw [turn?_eq_none_iff.mpr hlegal, turn?_eq_none_iff.mpr hplaces]
    rfl
  | cons i is =>
    rw [hlegal, List.map_cons] at hplaces
    obtain ⟨hplace, hsource⟩ := drawn_map draw s.source (renamedPlace f) i is
    rw [turn?_of_cons hlegal rfl rfl, turn?_of_cons hplaces hplace hsource, get_renamedPlace,
      take_rename hf]
    rfl

end Stage

/-! ## Runs -/

/-- The outcome with the keys renamed. The source has no keys. -/
def Outcome.rename (f : Key → Key) (o : Outcome ρ) : Outcome ρ :=
  ⟨o.events.map (Event.rename f), o.leftOver.map (Event.rename f), o.source⟩

/-- **Turns of a renamed stage take the renamed events.** -/
theorem Turns.rename (hf : Function.Injective f) (h : Turns draw s es t) :
    Turns draw (s.rename f) (es.map (Event.rename f)) (t.rename f) := by
  induction h with
  | nil => exact .nil
  | cons hturn _ ih =>
    refine .cons ?_ ih
    rw [Stage.turn?_rename hf, hturn]
    rfl

/-- **The run of a renamed stage is the renamed run.** -/
theorem run_rename (hf : Function.Injective f) (s : Stage ρ) :
    (s.rename f).run draw = (s.run draw).rename f := by
  obtain ⟨t, hturns, hend, -, -⟩ := turns_run draw s
  have hend' : (t.rename f).turn? draw = none := by
    rw [Stage.turn?_rename hf, hend]
    rfl
  rw [(hturns.rename hf).run_eq hend', hturns.run_eq hend]
  rfl

theorem Stage.start_map (r : ρ) (keys : List Key) :
    Stage.start r (keys.map f) = (Stage.start r keys).rename f := by
  simp [Stage.start, Stage.rename, Event.rename, Event.press]

/-- Only listed keys are pressed and released. -/
theorem key_mem_of_mem_ofKeys {r : ρ} {keys : List Key} {e : Event}
    (he : e ∈ (ofKeys draw r keys).events) : e.key ∈ keys := by
  rw [← List.count_pos_iff] at he ⊢
  obtain ⟨k, d⟩ := e
  cases d with
  | press => exact (count_press_ofKeys draw r keys k) ▸ he
  | release => exact (count_release_ofKeys draw r keys k) ▸ he

/-- **An interleaving of renamed keys is the renamed interleaving**, if the renaming keeps the
listed keys apart. -/
theorem ofKeys_map {keys : List Key} (hf : Set.InjOn f {k | k ∈ keys}) (draw : Draw ρ) (r : ρ) :
    ofKeys draw r (keys.map f) = (ofKeys draw r keys).rename f := by
  -- the run goes with a renaming of all keys, of which only the listed ones ever occur
  obtain ⟨g, hg, hgf⟩ := Key.exists_injective_of_injOn hf
  have hkeys : keys.map g = keys.map f := List.map_congr_left hgf
  have hevents : (ofKeys draw r keys).events.map (Event.rename g) =
      (ofKeys draw r keys).events.map (Event.rename f) :=
    Event.map_rename_congr fun e he => hgf e.key (key_mem_of_mem_ofKeys he)
  calc
    ofKeys draw r (keys.map f) = (Stage.start r (keys.map g)).run draw := by rw [hkeys]; rfl
    _ = (ofKeys draw r keys).rename g := by rw [Stage.start_map, run_rename hg]; rfl
    _ = (ofKeys draw r keys).rename f := by
      rw [Outcome.rename, hevents, leftOver_ofKeys, Outcome.rename, leftOver_ofKeys]
      rfl

/-- **Which keys are listed plays no part**, only which places of the list hold the same key. Let a
renaming keep the listed keys apart. Wherever a source of interleavings stands, the interleaving of
the renamed keys is the renamed interleaving of the keys, and the source stands at the same place
after it. So it is for the interleaving that a seed gives, and the forecast for it has the renamed
reports, with their events in the same order. -/
theorem names_play_no_part {keys : List Key} (hf : Set.InjOn f {k | k ∈ keys}) :
    (∀ w : Interleaver, w.next (keys.map f) =
      ((w.next keys).1.map (Event.rename f), (w.next keys).2)) ∧
    ∀ seed, ofSeed (keys.map f) seed = (ofSeed keys seed).map (Event.rename f) ∧
      Forecast.ofEvents (ofSeed (keys.map f) seed) =
        (Forecast.ofEvents (ofSeed keys seed)).rename f := by
  have hnext (w : Interleaver) : w.next (keys.map f) =
      ((w.next keys).1.map (Event.rename f), (w.next keys).2) := by
    unfold Interleaver.next
    rw [ofKeys_map hf]
    rfl
  refine ⟨hnext, fun seed => ?_⟩
  have hevents : ofSeed (keys.map f) seed = (ofSeed keys seed).map (Event.rename f) :=
    congrArg Prod.fst (hnext (Interleaver.ofSeed seed))
  have hoccur : Set.InjOn f {k | ∃ e ∈ ofSeed keys seed, e.key = k} := by
    refine hf.mono ?_
    rintro k ⟨e, he, rfl⟩
    exact key_mem_of_mem_ofKeys he
  rw [hevents]
  exact ⟨rfl, Forecast.ofEvents_map_rename hoccur⟩

/-- Two keys may get any two names, and what the other keys are called does not matter. -/
theorem names_play_no_part_twoKeys :
    let f : Key → Key := fun k => if k = .comma then .rightShift else .escape
    let keys : List Key := [.letterA, .comma, .letterA, .letterA, .comma]
    Set.InjOn f {k | k ∈ keys} ∧
    ofSeed [.escape, .rightShift, .escape, .escape, .rightShift] 42 =
      (ofSeed keys 42).map (Event.rename f) ∧
    Forecast.ofEvents (ofSeed [.escape, .rightShift, .escape, .escape, .rightShift] 42) =
      (Forecast.ofEvents (ofSeed keys 42)).rename f := by
  intro f keys
  have hapart : ∀ j ∈ keys, ∀ k ∈ keys, f j = f k → j = k := by decide +kernel
  have hf : Set.InjOn f {k | k ∈ keys} := fun j hj k hk => hapart j hj k hk
  have hmap : keys.map f = [.escape, .rightShift, .escape, .escape, .rightShift] := rfl
  rw [← hmap]
  exact ⟨hf, (names_play_no_part hf).2 42⟩

end Interleaving

end KeyBench
