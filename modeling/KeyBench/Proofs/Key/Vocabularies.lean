import KeyBench.Proofs.Key.Lookup
import KeyBench.Proofs.Text.Case

/-!
# The two vocabularies

The notation and the host each have a name for every key. The names of a vocabulary can be entered
into a table key by key, where a key drops the one that was entered under the same name before
(`tableOf`). No two keys have the same name but for the case of letters, so nothing is ever dropped,
and the table finds what going through all keys finds (`lookUp_tableOf`).

A text finds the key of which it is the name in some case, and any other text is refused and cited
as it is (`Exact`). No text names one key in the notation and another one for the host.
-/

namespace KeyBench.Key

variable {j k : Key}

/-! ## Tables of names -/

/-- The table with a key entered under its word in lower case, if it has a word. -/
def insertUnder (word? : Key → Option String) (table : Std.HashMap String Key) (k : Key) :
    Std.HashMap String Key :=
  match word? k with
  | some word => table.insert (String.ofList (Text.lower word)) k
  | none => table

/-- The table of all keys by their words. -/
def tableOf (word? : Key → Option String) : Std.HashMap String Key :=
  all.foldl (insertUnder word?) ∅

/-- Finds the key that was entered under a text in lower case. -/
def lookUp (table : Std.HashMap String Key) (text : String) : Except KeyError Key :=
  match table[String.ofList (Text.lower text)]? with
  | some k => .ok k
  | none => .error (.unknownName text)

/-- A key is found under its own word, and nothing else changes. -/
theorem getElem?_insertUnder (word? : Key → Option String) (table : Std.HashMap String Key)
    (k : Key) (w : List Char) : (insertUnder word? table k)[String.ofList w]? =
      if (word? k).map Text.lower = some w then some k else table[String.ofList w]? := by
  unfold insertUnder
  cases word? k with
  | none => simp
  | some word => simp [Std.HashMap.getElem?_insert, String.ofList_inj]

/-- **The table finds the key that was entered last under a word.** -/
theorem getElem?_foldl_insertUnder (word? : Key → Option String) (w : List Char) (ks : List Key)
    (table : Std.HashMap String Key) : (ks.foldl (insertUnder word?) table)[String.ofList w]? =
      (ks.reverse.find? fun k => (word? k).map Text.lower == some w).or
        table[String.ofList w]? := by
  induction ks generalizing table with
  | nil => simp
  | cons k ks ih =>
    rw [List.foldl_cons, ih, getElem?_insertUnder, List.reverse_cons, List.find?_append,
      Option.or_assoc]
    -- a key after `k` under the same word comes first in both, so only `k` itself is left
    congr 1
    by_cases h : (word? k).map Text.lower = some w <;> simp [h]

/-- If no two keys share a word, each is found under its own. -/
theorem getElem?_tableOf_eq_some_iff {word? : Key → Option String}
    (h : (all.map fun k => (word? k).map Text.lower).Nodup) {w : List Char} :
    (tableOf word?)[String.ofList w]? = some k ↔ some w = (word? k).map Text.lower := by
  have hreverse : (all.reverse.map fun k => (word? k).map Text.lower).Nodup := by
    rwa [List.map_reverse, List.nodup_reverse]
  rw [tableOf, getElem?_foldl_insertUnder, Std.HashMap.getElem?_empty, Option.or_none,
    find?_mark_eq_some_iff hreverse (List.mem_reverse.mpr (mem_all k))]

/-- The table finds what going through the keys finds. -/
theorem getElem?_tableOf_eq_find? {word? : Key → Option String} {word : Key → String}
    (hword : ∀ k, word? k = some (word k)) (h : (all.map fun k => Text.lower (word k)).Nodup)
    (w : List Char) : (tableOf word?)[String.ofList w]? =
      all.find? fun k => Text.lower (word k) == w := by
  have hsome : (all.map fun k => (word? k).map Text.lower).Nodup := by
    have hmap : ((all.map fun k => Text.lower (word k)).map some).Nodup :=
      h.map fun _ _ => Option.some.inj
    rw [List.map_map] at hmap
    simp only [hword]
    exact hmap
  ext k
  rw [getElem?_tableOf_eq_some_iff hsome, find?_mark_eq_some_iff h (mem_all k), hword,
    Option.map_some, Option.some_inj]

/-- Every key has a host name. -/
theorem hostName?_usage (k : Key) : k.usage.hostName? = some k.hostName := by cases k <;> rfl

/-- **What the table finds is found by the words in lower case.** -/
theorem lookUp_tableOf {word? : Key → Option String} {word : Key → String}
    (hword : ∀ k, word? k = some (word k)) (h : (all.map fun k => Text.lower (word k)).Nodup)
    (text : String) : lookUp (tableOf word?) text =
      findBy (fun k => Text.lower (word k)) (.unknownName text) (Text.lower text) := by
  rw [lookUp, getElem?_tableOf_eq_find? hword h]
  rfl

/-! ## What the names find -/

/-- Whether a look-up finds every key by its word in any case, and refuses every other text. -/
structure Exact (resolve : String → Except KeyError Key) (word : Key → String) : Prop where
  ok_iff : ∀ text k, resolve text = .ok k ↔ Text.SameButCase text (word k)
  error_iff : ∀ text cause, resolve text = .error cause ↔
    (∀ k, ¬Text.SameButCase text (word k)) ∧ cause = .unknownName text

theorem exact_of_nodup {resolve : String → Except KeyError Key} {word : Key → String}
    (hresolve : ∀ text, resolve text =
      findBy (fun k => Text.lower (word k)) (.unknownName text) (Text.lower text))
    (h : (all.map fun k => Text.lower (word k)).Nodup) : Exact resolve word where
  ok_iff := fun text k => by
    rw [hresolve, findBy_eq_ok_iff h, Text.lower_eq_lower_iff]
  error_iff := fun text cause => by
    rw [hresolve, findBy_eq_error_iff h]
    simp only [ne_eq, Text.lower_eq_lower_iff]

/-- A name of one key in the notation is no name of another one for the host. -/
theorem eq_of_lower_name_eq (h : Text.lower j.name = Text.lower k.hostName) : j = k := by
  have htable : ∀ j ∈ all, ∀ k ∈ all, Text.lower j.name = Text.lower k.hostName → j = k := by
    decide +kernel
  exact htable j (mem_all j) k (mem_all k) h

/-- **Names are found exactly, and the two vocabularies never conflict.** In each of them a text
finds the key of which it is the name but for the case of letters, and every other text is refused
and cited as it is. The same is found in a table into which the keys are entered one after the
other. A text that is a name in both vocabularies is so for one key. -/
theorem names_found_exactly :
    Exact ofName name ∧ Exact ofHostName hostName ∧
    (∀ text, ofName text = lookUp (tableOf fun k => some k.name) text ∧
      ofHostName text = lookUp (tableOf fun k => k.usage.hostName?) text) ∧
    ∀ text j k, ofName text = .ok j → ofHostName text = .ok k → j = k := by
  refine ⟨exact_of_nodup ofName_eq_findBy nodup_lower_name,
    exact_of_nodup ofHostName_eq_findBy nodup_lower_hostName, ?_, ?_⟩
  · intro text
    rw [lookUp_tableOf (fun _ => rfl) nodup_lower_name,
      lookUp_tableOf hostName?_usage nodup_lower_hostName]
    exact ⟨ofName_eq_findBy text, ofHostName_eq_findBy text⟩
  · intro text j k hj hk
    have hname := ofName_eq_ok_iff.mp hj
    have hhost := ofHostName_eq_ok_iff.mp hk
    exact eq_of_lower_name_eq (hname.symm.trans hhost)

end KeyBench.Key
