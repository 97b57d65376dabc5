import KeyBench.Json.Skip
import KeyBench.Proofs.Json.Numbers
import KeyBench.Proofs.Json.Strings

/-!
# Texts of values

A value is a word, a string, a number, a list or an object, and a list and an object differ in what
stands before each of their values: nothing or a key (`Label`). `Written` says which texts are those
of a value, and which are those of the items between two brackets.

A value is skipped without recursion into its parts. What remains to be skipped is known from the
brackets that are open: `proceed` goes on after a value, and `enter` goes on before an item. Each
part of a text takes the machine from one of these places to another (`Written.skips`), and with
nothing open the place after a value is the end (`skipValue_of_written`).
-/

namespace KeyBench.Json

variable {b : Bracket} {outer opened : List Bracket} {s t rest before after : List Char}

/-! ## Blanks -/

/-- Whether a text is made of blanks. -/
def Blank (s : List Char) : Prop := ∀ c ∈ s, isSpace c = true

instance (s : List Char) : Decidable (Blank s) :=
  decidable_of_iff (s.all isSpace = true) List.all_eq_true

theorem skipSpace_append (hs : Blank s) : skipSpace (s ++ t) = skipSpace t :=
  List.dropWhile_append_of_pos hs

theorem skipSpace_cons {c : Char} (hc : isSpace c = false) : skipSpace (c :: s) = c :: s := by
  simp [skipSpace, hc]

theorem readColon_append (hs : Blank s) : readColon (s ++ ':' :: t) = .ok t := by
  have hcolon : skipSpace (':' :: t) = ':' :: t := rfl
  rw [readColon, skipSpace_append hs, hcolon]
  rfl

theorem EndsNumber.blank_append (hs : Blank s) (ht : EndsNumber t) : EndsNumber (s ++ t) := by
  cases s with
  | nil => exact ht
  | cons c s =>
    have hc := hs c List.mem_cons_self
    simp only [isSpace, Bool.or_eq_true, beq_iff_eq] at hc
    rcases hc with ((rfl | rfl) | rfl) | rfl <;>
      exact endsNumber_cons (by decide) (by decide) (by decide) (by decide)

theorem blank_nil : Blank [] := fun _ hc => absurd hc List.not_mem_nil

/-! ## What a text may be -/

/-- The character that opens a list or an object. -/
def Bracket.opening : Bracket → Char
  | .list => '['
  | .object => '\x7b'

/-- What stands before a value between two brackets: nothing in a list, in an object a key that
nobody wants and its colon. -/
inductive Label : Bracket → List Char → Prop
  | none : Label .list []
  | key {before body after : List Char} (hbefore : Blank before) (hbody : LooseBody body)
    (hafter : Blank after) : Label .object (before ++ '"' :: (body ++ '"' :: (after ++ [':'])))

/-- A part of a text: a value, or the items between two brackets. -/
inductive Part where
  | value
  | items (b : Bracket)

/-- Whether a text is that of a part, whatever it stands for. Blanks stand around the items, not
around a value. -/
inductive Written : Part → List Char → Prop
  | null : Written .value ['n', 'u', 'l', 'l']
  | yes : Written .value ['t', 'r', 'u', 'e']
  | no : Written .value ['f', 'a', 'l', 's', 'e']
  | string {body : List Char} (h : LooseBody body) : Written .value ('"' :: (body ++ ['"']))
  | number {numeral : Numeral} {s : List Char} (h : NumeralText numeral s) : Written .value s
  | negative {numeral : Numeral} {s : List Char} (h : NumeralText numeral s) :
    Written .value ('-' :: s)
  | empty {b : Bracket} {s : List Char} (h : Blank s) :
    Written .value (b.opening :: (s ++ [b.closing]))
  | full {b : Bracket} {s : List Char} (h : Written (.items b) s) :
    Written .value (b.opening :: (s ++ [b.closing]))
  | last {b : Bracket} {label before s after : List Char} (hlabel : Label b label)
    (hbefore : Blank before) (h : Written .value s) (hafter : Blank after) :
    Written (.items b) (label ++ (before ++ (s ++ after)))
  | more {b : Bracket} {label before s after t : List Char} (hlabel : Label b label)
    (hbefore : Blank before) (h : Written .value s) (hafter : Blank after)
    (ht : Written (.items b) t) :
    Written (.items b) (label ++ (before ++ (s ++ (after ++ ',' :: t))))

/-- No value starts with a blank, nor with the bracket that ends a list. -/
theorem Written.exists_cons (h : Written .value s) :
    ∃ c t, s = c :: t ∧ isSpace c = false ∧ c ≠ ']' := by
  cases h with
  | null | yes | no | string | negative => exact ⟨_, _, rfl, rfl, by decide⟩
  | number h =>
    obtain ⟨c, cs, rfl, hc⟩ := h.exists_cons
    refine ⟨c, cs, rfl, isSpace_of_isDigit hc, ?_⟩
    rintro rfl
    cases hc
  | @empty b | @full b => cases b <;> exact ⟨_, _, rfl, rfl, by decide⟩

theorem Label.exists_blank_append {label : List Char} (hlabel : Label b label)
    (hbefore : Blank before) (h : Written .value s) (t : List Char) :
    ∃ blank c t', label ++ (before ++ (s ++ t)) = blank ++ c :: t' ∧ Blank blank ∧
      isSpace c = false ∧ c ≠ b.closing := by
  cases hlabel with
  | none =>
    obtain ⟨c, s, rfl, hspace, hclosing⟩ := h.exists_cons
    exact ⟨before, c, s ++ t, rfl, hbefore, hspace, hclosing⟩
  | key hblank => exact ⟨_, '"', _, List.append_assoc _ _ _, hblank, rfl, by decide⟩

/-- No item starts with the bracket that ends the items, blanks apart. -/
theorem Written.exists_blank_append (h : Written (.items b) s) :
    ∃ blank c t, s = blank ++ c :: t ∧ Blank blank ∧ isSpace c = false ∧ c ≠ b.closing := by
  cases h with
  | last hlabel hbefore hs => exact hlabel.exists_blank_append hbefore hs _
  | more hlabel hbefore hs => exact hlabel.exists_blank_append hbefore hs _

/-! ## The places of the machine -/

/-- Goes on where a step has led to. -/
def resume : Except Error (List Bracket × List Char) → Except Error (List Char)
  | .error e => .error e
  | .ok ([], after) => .ok after
  | .ok (b :: outer, after) => skipValue (b :: outer) after

/-- Goes on after a value, if `complete`, or after an opening bracket. -/
def proceed (complete : Bool) (opened : List Bracket) (s : List Char) : Except Error (List Char) :=
  resume (toNextValue complete opened s)

/-- Goes on before an item of `b`. -/
def enter (b : Bracket) (outer : List Bracket) (s : List Char) : Except Error (List Char) :=
  resume (toMember b outer s)

theorem skipValue_of_begin {complete : Bool} {opened' : List Bracket}
    (h : beginValue opened s = .ok (complete, opened', rest)) :
    skipValue opened s = proceed complete opened' rest := by
  rw [skipValue, proceed]
  split
  · next hb =>
    rw [h] at hb
    cases hb
  · next hb =>
    rw [h] at hb
    cases hb
    split
    · next hn => exact (congrArg resume hn).symm
    · next hn => exact (congrArg resume hn).symm
    · next hn => exact (congrArg resume hn).symm

theorem skipValue_of_begin_error {e : Error} (h : beginValue opened s = .error e) :
    skipValue opened s = .error e := by
  rw [skipValue]
  split
  · next hb =>
    rw [h] at hb
    cases hb
    rfl
  · next hb =>
    rw [h] at hb
    cases hb

/-! ### Before a value -/

theorem skipValue_blank (hs : Blank s) : skipValue opened (s ++ t) = skipValue opened t := by
  have hbegin : beginValue opened (s ++ t) = beginValue opened t := by
    rw [beginValue, beginValue, skipSpace_append hs]
  cases h : beginValue opened t with
  | error e =>
    rw [skipValue_of_begin_error h, skipValue_of_begin_error (hbegin.trans h)]
  | ok r =>
    rw [skipValue_of_begin h, skipValue_of_begin (hbegin.trans h)]

/-- An opening bracket is all that is read of a list or an object. -/
theorem skipValue_opening :
    skipValue opened (b.opening :: s) = proceed false (b :: opened) s := by
  apply skipValue_of_begin
  cases b <;> rfl

theorem skipValue_scalar {c : Char} (hc : isSpace c = false) (hlist : c ≠ '[')
    (hobject : c ≠ '\x7b') (h : skipScalar (c :: s) = .ok rest) :
    skipValue opened (c :: s) = proceed true opened rest := by
  apply skipValue_of_begin
  rw [beginValue, skipSpace_cons hc]
  simp [hlist, hobject, h]

/-- No number is taken for a word, a string or a bracket. -/
theorem skipValue_numeral {numeral : Numeral} (h : NumeralText numeral s)
    (hrest : EndsNumber rest) : skipValue opened (s ++ rest) = proceed true opened rest := by
  have hskip := skipNumeral_of_text h hrest
  obtain ⟨c, cs, rfl, hc⟩ := h.exists_cons
  have hne : ∀ d : Char, d.isDigit = false → c ≠ d := by
    rintro d hd rfl
    exact absurd hc (Bool.eq_false_iff.mp hd)
  apply skipValue_scalar (isSpace_of_isDigit hc) (hne _ rfl) (hne _ rfl)
  rw [skipScalar, if_neg (hne _ rfl), if_neg (hne _ rfl), if_neg (hne _ rfl), if_neg (hne _ rfl),
    if_neg (hne _ rfl), if_pos hc]
  exact hskip

/-! ### After a value -/

theorem proceed_nil : proceed true [] s = .ok s := rfl

theorem proceed_blank {complete : Bool} (hs : Blank s) :
    proceed complete (b :: outer) (s ++ t) = proceed complete (b :: outer) t := by
  rw [proceed, proceed, toNextValue, toNextValue, skipSpace_append hs]

theorem proceed_comma : proceed true (b :: outer) (',' :: s) = enter b outer s := by
  rw [proceed, enter, toNextValue, skipSpace_cons rfl]
  simp

theorem proceed_closing {complete : Bool} :
    proceed complete (b :: outer) (b.closing :: s) = proceed true outer s := by
  rw [proceed, proceed, toNextValue]
  cases b <;> simp [Bracket.closing, skipSpace, isSpace]

/-- What follows an opening bracket and does not close it is the first item. -/
theorem proceed_first {c : Char} (hc : isSpace c = false) (hclosing : c ≠ b.closing) :
    proceed false (b :: outer) (c :: s) = enter b outer (c :: s) := by
  rw [proceed, enter, toNextValue, skipSpace_cons hc]
  simp [hclosing]

/-! ### Before an item -/

theorem enter_blank (hs : Blank s) : enter b outer (s ++ t) = enter b outer t := by
  cases b with
  | list => exact skipValue_blank hs
  | object => rw [enter, enter, toMember, toMember, skipKey, skipKey, skipSpace_append hs]

theorem enter_label {label : List Char} (h : Label b label) :
    enter b outer (label ++ s) = skipValue (b :: outer) s := by
  cases h with
  | none => rfl
  | @key before body after hbefore hbody hafter =>
    have hstring := skipString_of_body hbody (after ++ ':' :: s)
    have hcolon := readColon_append hafter (t := s)
    rw [List.append_assoc, enter_blank hbefore, enter, toMember, skipKey, List.cons_append,
      skipSpace_cons rfl]
    simp [hstring, hcolon, resume]

/-! ## Whole values -/

/-- What skipping a part of a text does: a value takes the machine from the place before it to the
place after it, and items take it from the first one to the place after their bracket. -/
def Skips : Part → List Char → Prop
  | .value, s => ∀ opened rest, EndsNumber rest →
      skipValue opened (s ++ rest) = proceed true opened rest
  | .items b, s => ∀ outer rest, enter b outer (s ++ b.closing :: rest) = proceed true outer rest

theorem endsNumber_closing : EndsNumber (b.closing :: rest) := by
  cases b <;> exact endsNumber_cons (by decide) (by decide) (by decide) (by decide)

theorem endsNumber_comma : EndsNumber (',' :: rest) :=
  endsNumber_cons (by decide) (by decide) (by decide) (by decide)

/-- An item is skipped from its label to what follows it. -/
theorem Skips.enter_append {label : List Char} (h : Skips .value s) (hlabel : Label b label)
    (hbefore : Blank before) (hafter : Blank after) (hrest : EndsNumber rest) :
    enter b outer (label ++ (before ++ (s ++ (after ++ rest)))) =
      proceed true (b :: outer) rest := by
  rw [enter_label hlabel, skipValue_blank hbefore, h _ _ (hrest.blank_append hafter),
    proceed_blank hafter]

/-- **Every part of a text is skipped.** -/
theorem Written.skips {part : Part} (h : Written part s) : Skips part s := by
  induction h with
  | null | yes | no => exact fun _ _ _ => skipValue_scalar rfl (by decide) (by decide) rfl
  | @string body hbody =>
    intro opened rest _
    have hstring : skipScalar ('"' :: (body ++ '"' :: rest)) = .ok rest :=
      skipString_of_body hbody rest
    rw [List.cons_append, List.append_assoc]
    exact skipValue_scalar rfl (by decide) (by decide) hstring
  | number hnumeral =>
    intro opened rest hrest
    exact skipValue_numeral hnumeral hrest
  | negative hnumeral =>
    intro opened rest hrest
    exact skipValue_scalar rfl (by decide) (by decide) (skipNumeral_of_text hnumeral hrest)
  | @empty b s hs =>
    intro opened rest _
    rw [List.cons_append, skipValue_opening, List.append_assoc, proceed_blank hs]
    exact proceed_closing
  | @full b s hs ih =>
    intro opened rest _
    -- the first item is found behind the bracket, without a comma before it
    obtain ⟨blank, c, t, rfl, hblank, hc, hclosing⟩ := hs.exists_blank_append
    have hitems := ih opened rest
    rw [List.append_assoc, enter_blank hblank] at hitems
    rw [List.cons_append, skipValue_opening, List.append_assoc, List.append_assoc,
      proceed_blank hblank, List.cons_append, proceed_first hc hclosing]
    exact hitems
  | last hlabel hbefore _ hafter ih =>
    intro outer rest
    rw [List.append_assoc, List.append_assoc, List.append_assoc,
      ih.enter_append hlabel hbefore hafter endsNumber_closing, proceed_closing]
  | more hlabel hbefore _ hafter _ ih iht =>
    intro outer rest
    -- a comma takes the machine back to the place before an item
    rw [List.append_assoc, List.append_assoc, List.append_assoc, List.append_assoc,
      List.cons_append, ih.enter_append hlabel hbefore hafter endsNumber_comma, proceed_comma]
    exact iht outer rest

/-- **A value that nobody wants is skipped, however deeply it is nested.** -/
theorem skipValue_of_written (hbefore : Blank before) (hs : Written .value s)
    (hrest : EndsNumber rest) : skipValue [] (before ++ (s ++ rest)) = .ok rest := by
  rw [skipValue_blank hbefore, hs.skips [] rest hrest, proceed_nil]

end KeyBench.Json
