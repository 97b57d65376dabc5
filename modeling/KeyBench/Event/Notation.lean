import KeyBench.Event
import KeyBench.Key.Lookup

/-!
# The notation for events

An event is written as the name of its key and a direction, with blanks between them: `a down`,
`LSHIFT up`. A sequence is a list of events between commas. The comma key itself has no visible
name in a sequence: a blank item, the comma that ends it, and a direction stand for its event, as
in `a down, , down`. A set of keys is written as their one-character names in a row.
-/

namespace KeyBench

/-- Why a text is not in the notation. -/
inductive NotationError where
  | key (cause : KeyError)
  | direction (text : String)
  | event (text : String)
  deriving DecidableEq, Repr

/-- The error as it is reported. -/
def NotationError.message : NotationError → String
  | .key cause => cause.message
  | .direction text =>
    "invalid direction " ++ Text.quote text ++ " (expected \"down\" or \"up\")"
  | .event text =>
    "invalid key event " ++ Text.quote text ++ " (expected \"KEY down\" or \"KEY up\")"

/-! ## Events -/

/-- The direction that a word names, in any case of its letters. -/
def Direction.ofWord? (word : List Char) : Option Direction :=
  let w := word.map Char.toLower
  if w = ['d', 'o', 'w', 'n'] ∨ w = ['p', 'r', 'e', 's', 's'] then some .press
  else if w = ['u', 'p'] ∨ w = ['r', 'e', 'l', 'e', 'a', 's', 'e'] then some .release
  else none

/-- Reads a direction. -/
def Direction.parse (word : List Char) : Except NotationError Direction :=
  match Direction.ofWord? word with
  | some d => .ok d
  | none => .error (.direction (String.ofList word))

/-- Reads an event: the name of a key and a direction, and nothing else. A key that does not exist
is reported before a wrong direction. -/
def Event.parse (text : List Char) : Except NotationError Event :=
  match Text.words text with
  | [name, word] =>
    match Key.ofName (String.ofList name) with
    | .error e => .error (.key e)
    | .ok key =>
      match Direction.parse word with
      | .error e => .error e
      | .ok direction => .ok ⟨key, direction⟩
  | _ => .error (.event (String.ofList text))

/-! ## Sequences -/

/-- Reads the items of a sequence; `whole` is the text they were cut from. -/
def Event.parseItems (whole : String) : List (List Char) → Except NotationError (List Event)
  | [] => .ok []
  | [[]] => .error (.event whole)
  | [] :: word :: items =>
    match Direction.ofWord? word with
    | none => .error (.event whole)
    | some direction => (Event.mk .comma direction :: ·) <$> parseItems whole items
  | item :: items =>
    match Event.parse item with
    | .error e => .error e
    | .ok event => (event :: ·) <$> parseItems whole items

/-- Reads a sequence of events. A blank text is the empty sequence. -/
def Event.parseSequence (text : String) : Except NotationError (List Event) :=
  if (Text.trim text.toList).isEmpty then .ok []
  else parseItems text ((Text.pieces (· == ',') text.toList).map Text.trim)

/-! ## Sets of keys -/

/-- Reads a set of keys: each character that is no blank names a key, and a key may come more than
once. -/
def Key.parseSet (text : String) : Except KeyError (List Key) :=
  (text.toList.filter fun c => !Text.isBlank c).mapM fun c => Key.ofName (String.singleton c)

end KeyBench
