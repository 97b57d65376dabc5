import Mathlib.Data.List.Forall2
import Mathlib.Data.List.Nodup
import KeyBench.Text.Blank

/-!
# The case of letters

Names are compared without regard to the case of the letters `A` to `Z`. What that means is told by
the two alphabets alone (`SameButCase`), and it is what comparing the texts in lower case amounts to
(`lower_eq_lower_iff`). A character of neither alphabet counts as it is, however much it looks like
a letter.
-/

namespace KeyBench.Text

variable {c d : Char} {s t : String}

/-- The letters that have a case, each capital with its small letter. -/
def casePairs : List (Char × Char) :=
  "ABCDEFGHIJKLMNOPQRSTUVWXYZ".toList.zip "abcdefghijklmnopqrstuvwxyz".toList

/-- Whether two characters are the same, or one letter in two cases. -/
def SameLetter (c d : Char) : Prop := c = d ∨ (c, d) ∈ casePairs ∨ (d, c) ∈ casePairs

/-- Whether two texts are the same, character by character, but for the case of letters. -/
def SameButCase (s t : String) : Prop := List.Forall₂ SameLetter s.toList t.toList

/-! ## Lower case -/

theorem toLower_of_mem_casePairs (h : (c, d) ∈ casePairs) : c.toLower = d ∧ d.toLower = d := by
  have htable : ∀ p ∈ casePairs, p.1.toLower = p.2 ∧ p.2.toLower = p.2 := by decide +kernel
  exact htable (c, d) h

/-- Only capitals are changed. -/
theorem mem_casePairs_of_toLower_ne (h : c.toLower ≠ c) : (c, c.toLower) ∈ casePairs := by
  have htable : ∀ n < 91, 65 ≤ n → (Char.ofNat n, (Char.ofNat n).toLower) ∈ casePairs := by
    decide +kernel
  have hcapital : c.val ≥ 'A'.val ∧ c.val ≤ 'Z'.val := by
    by_contra hnot
    exact h (dif_neg hnot)
  have hle : 65 ≤ c.toNat := UInt32.le_iff_toNat_le.mp hcapital.1
  have hlt : c.toNat < 91 := Nat.lt_succ_of_le (UInt32.le_iff_toNat_le.mp hcapital.2)
  have hc := htable c.toNat hlt hle
  rwa [Char.ofNat_toNat] at hc

/-- A small letter has one capital. -/
theorem eq_of_mem_casePairs {x : Char} (hc : (c, x) ∈ casePairs) (hd : (d, x) ∈ casePairs) :
    c = d := by
  have hsmall : (casePairs.map Prod.snd).Nodup := by decide +kernel
  exact congrArg Prod.fst (List.inj_on_of_nodup_map hsmall hc hd rfl)

theorem toLower_eq_toLower_iff : c.toLower = d.toLower ↔ SameLetter c d := by
  constructor
  · intro h
    by_cases hc : c.toLower = c
    · by_cases hd : d.toLower = d
      · exact .inl (hc.symm.trans (h.trans hd))
      · have hpair := mem_casePairs_of_toLower_ne hd
        rw [← h, hc] at hpair
        exact .inr (.inr hpair)
    · have hpair := mem_casePairs_of_toLower_ne hc
      rw [h] at hpair
      by_cases hd : d.toLower = d
      · rw [hd] at hpair
        exact .inr (.inl hpair)
      · exact .inl (eq_of_mem_casePairs hpair (mem_casePairs_of_toLower_ne hd))
  · rintro (rfl | h | h)
    · rfl
    · obtain ⟨hc, hd⟩ := toLower_of_mem_casePairs h
      exact hc.trans hd.symm
    · obtain ⟨hd, hc⟩ := toLower_of_mem_casePairs h
      exact hc.trans hd.symm

/-- **Texts that are the same but for the case of letters are those with the same lower case.** -/
theorem lower_eq_lower_iff : lower s = lower t ↔ SameButCase s t := by
  rw [← List.forall₂_eq_eq_eq, lower, lower, List.forall₂_map_left_iff,
    List.forall₂_map_right_iff]
  simp only [toLower_eq_toLower_iff]
  rfl

instance (s t : String) : Decidable (SameButCase s t) := decidable_of_iff _ lower_eq_lower_iff

/-- The Kelvin sign looks like a letter, but is none here. -/
example : SameButCase "Caps LOCK" "caps lock" ∧ ¬SameButCase "caps loc\u212a" "caps lock" := by
  decide +kernel

end KeyBench.Text
