/-!
# Blanks

The characters of the Unicode property White_Space, and what is done with them: trimming a text,
cutting it into words, cutting it at its last blank, cutting it into lines.

A text is a `List Char`, so each of these is a short recursion.
-/

namespace KeyBench.Text

/-- The Unicode property White_Space. -/
def isBlank (c : Char) : Bool :=
  ('\t' ≤ c && c ≤ '\r') || c == ' ' || c == '\u0085' || c == '\u00a0' || c == '\u1680' ||
  ('\u2000' ≤ c && c ≤ '\u200a') || c == '\u2028' || c == '\u2029' || c == '\u202f' ||
  c == '\u205f' || c == '\u3000'

/-! ## Trimming -/

/-- The text without its leading blanks. -/
def trimStart (cs : List Char) : List Char := cs.dropWhile isBlank

/-- The text without its trailing blanks. -/
def trimEnd (cs : List Char) : List Char := (trimStart cs.reverse).reverse

/-- The text without its leading and trailing blanks. -/
def trim (cs : List Char) : List Char := trimEnd (trimStart cs)

/-! ## Cutting -/

/-- Cuts a text at every character of a class and leaves these characters out.
`n` of them make `n + 1` pieces. -/
def pieces (cut : Char → Bool) : List Char → List (List Char)
  | [] => [[]]
  | c :: cs =>
    if cut c then [] :: pieces cut cs
    else match pieces cut cs with
      | [] => [[c]]
      | p :: ps => (c :: p) :: ps

theorem pieces_ne_nil (cut : Char → Bool) (cs : List Char) : pieces cut cs ≠ [] := by
  cases cs with
  | nil => simp [pieces]
  | cons c cs =>
    rw [pieces]
    split
    · simp
    · split <;> simp

/-- The longest runs of characters that are no blanks. -/
def words (cs : List Char) : List (List Char) :=
  (pieces isBlank cs).filter fun p => !p.isEmpty

/-- The texts before and after the last blank, if there is one. -/
def atLastBlank? (cs : List Char) : Option (List Char × List Char) :=
  match cs.reverse.dropWhile fun c => !isBlank c with
  | [] => none
  | _ :: before => some (before.reverse, (cs.reverse.takeWhile fun c => !isBlank c).reverse)

/-! ## Lines -/

/-- The line without the carriage return at its end, if it has one. -/
def withoutReturn (line : List Char) : List Char :=
  if line.getLast? = some '\r' then line.dropLast else line

/-- The lines of a text. Each ends with a line feed and has no carriage return before it; of the
last one the line feed may be missing. -/
def lines (cs : List Char) : List (List Char) :=
  let ps := pieces (· == '\n') cs
  ps.dropLast.map withoutReturn ++ (ps.getLast?.filter fun p => !p.isEmpty).toList

/-! ## Case -/

/-- The text with the letters `A` to `Z` in lower case; no other character has a case here. -/
def lower (s : String) : List Char := s.toList.map Char.toLower

end KeyBench.Text
