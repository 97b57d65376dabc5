/-!
# Bags

A bag is a list of which only the members count, but which is kept and shown in some order. Taking
a member out moves the last one into the gap.

## What is taken and what is left

`perm_cons_removeAt` and `perm_cons_of_remove?` say that the member taken out and the rest are
together what the bag held; `remove?_isSome_iff` says that every member can be taken out.
-/

namespace KeyBench.Bag

variable {α : Type}

/-- The members with the last one moved to the front. -/
def lastFirst (xs : List α) : List α :=
  match xs.getLast? with
  | none => []
  | some z => z :: xs.dropLast

theorem lastFirst_perm (xs : List α) : (lastFirst xs).Perm xs := by
  unfold lastFirst
  split
  · next h => rw [List.getLast?_eq_none_iff.mp h]
  · next z h =>
    have hne : xs ≠ [] := by rintro rfl; simp at h
    have hz : z = xs.getLast hne := by simpa [List.getLast?_eq_some_getLast hne] using h.symm
    calc
      (z :: xs.dropLast).Perm (xs.dropLast ++ [z]) := (List.perm_append_singleton z _).symm
      _ = xs := by rw [hz, List.dropLast_concat_getLast]

/-! ## Taking out by place -/

/-- The bag without the member at a place. -/
def removeAt : List α → Nat → List α
  | [], _ => []
  | _ :: xs, 0 => lastFirst xs
  | x :: xs, i + 1 => x :: removeAt xs i

theorem perm_cons_removeAt : ∀ {xs : List α} {i : Nat} (h : i < xs.length),
    (xs[i] :: removeAt xs i).Perm xs
  | x :: xs, 0, _ => (lastFirst_perm xs).cons x
  | x :: xs, i + 1, h =>
    have h' : i < xs.length := by simpa using h
    (List.Perm.swap x xs[i] (removeAt xs i)).trans ((perm_cons_removeAt h').cons x)

/-! ## Taking out by value -/

variable [DecidableEq α]

/-- The bag without one occurrence of a member, the first one; nothing if it is no member. -/
def remove? : List α → α → Option (List α)
  | [], _ => none
  | x :: xs, y =>
    if x = y then some (lastFirst xs)
    else match remove? xs y with
      | none => none
      | some rest => some (x :: rest)

theorem remove?_isSome_iff {xs : List α} {y : α} : (remove? xs y).isSome ↔ y ∈ xs := by
  induction xs with
  | nil => simp [remove?]
  | cons x xs ih =>
    by_cases h : x = y
    · simp [remove?, h]
    · have hy : y ∈ x :: xs ↔ y ∈ xs := by simp [Ne.symm h]
      rw [remove?, if_neg h, hy, ← ih]
      cases remove? xs y <;> rfl

theorem perm_cons_of_remove? {xs rest : List α} {y : α} (h : remove? xs y = some rest) :
    (y :: rest).Perm xs := by
  induction xs generalizing rest with
  | nil => simp [remove?] at h
  | cons x xs ih =>
    rw [remove?] at h
    split at h
    · next hx =>
      obtain rfl := Option.some.inj h
      exact hx ▸ (lastFirst_perm xs).cons x
    · split at h
      · simp at h
      · next r hr =>
        obtain rfl := Option.some.inj h
        exact (List.Perm.swap x y r).trans ((ih hr).cons x)

end KeyBench.Bag
