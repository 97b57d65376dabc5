import KeyBench.Proofs.Checker.Acceptance
import KeyBench.Proofs.Event.Histories

/-!
# What reordering leaves alone

A checker accepts events in another order than they were sent. The order that counts stays: no
report holds two different events of one key or two presses, so what is accepted has the same
presses in the same order, and the same history of every key.
-/

namespace KeyBench.Checker

open Event

theorem history_eq_of_accepts {sent es : List Event}
    (h : (ofForecast (Forecast.ofEvents sent)).Accepts es) (k : Key) :
    history k es = history k sent := by
  have hfilter := (accepts_iff_isDelivery_reportsOf.mp h).filter_eq (p := fun e => e.key = k) ?_
  · rwa [Forecast.reportsOf_flatten] at hfilter
  · intro r hr e he f hf hek hfk
    have hkey : e.key = f.key := (of_decide_eq_true hek).trans (of_decide_eq_true hfk).symm
    exact (Forecast.filled_of_mem_reportsOf r hr).eq_of_key_eq he hf hkey

theorem presses_eq_of_accepts {sent es : List Event}
    (h : (ofForecast (Forecast.ofEvents sent)).Accepts es) :
    es.filter isPress = sent.filter isPress := by
  have hfilter := (accepts_iff_isDelivery_reportsOf.mp h).filter_eq (p := isPress) ?_
  · rwa [Forecast.reportsOf_flatten] at hfilter
  · intro r hr e he f hf hep hfp
    exact (Forecast.filled_of_mem_reportsOf r hr).eq_of_isPress he hf hep hfp

/-- **The tolerated reordering touches no history.** What is accepted has the history of every key
and the presses in the order in which they were sent, and it can be played if and only if what was
sent can be. -/
theorem orders_kept_of_accepts {sent es : List Event}
    (h : (ofForecast (Forecast.ofEvents sent)).Accepts es) :
    (∀ k, history k es = history k sent) ∧ es.filter isPress = sent.filter isPress ∧
      (checkSequence es = .ok () ↔ checkSequence sent = .ok ()) := by
  have hhistory := history_eq_of_accepts h
  refine ⟨hhistory, presses_eq_of_accepts h, ?_⟩
  simp only [checkSequence_eq_ok_iff, hhistory]

/-- The press of `b` and the release of `a` share a report and may change places. -/
theorem orders_kept_of_changed_places :
    (ofForecast (Forecast.ofEvents
      [press .letterA, press .letterB, release .letterA, release .letterB])).Accepts
        [press .letterA, release .letterA, press .letterB, release .letterB] ∧
      (∀ k, history k [press .letterA, release .letterA, press .letterB, release .letterB] =
        history k [press .letterA, press .letterB, release .letterA, release .letterB]) ∧
      [press .letterA, release .letterA, press .letterB, release .letterB].filter isPress =
        [press .letterA, press .letterB, release .letterA, release .letterB].filter isPress ∧
      (checkSequence [press .letterA, release .letterA, press .letterB, release .letterB] = .ok () ↔
        checkSequence [press .letterA, press .letterB, release .letterA, release .letterB] =
          .ok ()) := by
  have h : (ofForecast (Forecast.ofEvents
      [press .letterA, press .letterB, release .letterA, release .letterB])).Accepts
        [press .letterA, release .letterA, press .letterB, release .letterB] := ⟨_, rfl, rfl⟩
  exact ⟨h, orders_kept_of_accepts h⟩

end KeyBench.Checker
