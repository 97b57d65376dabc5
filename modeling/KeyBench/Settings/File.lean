import KeyBench.HostError
import KeyBench.Settings.Reader

/-!
# Settings in a file

A file of settings may be missing or hold no text, or its text may be refused.
-/

namespace KeyBench

/-- Why settings could not be loaded. -/
inductive SettingsError where
  | unreadable (path : String) (cause : IoFailure)
  | json (cause : Json.Error)

/-- The error as it is reported. -/
def SettingsError.message : SettingsError → String
  | .unreadable path cause => "failed to read " ++ path ++ ": " ++ cause.message
  | .json cause => cause.message

/-- The text of a file that has been read. -/
def Settings.textOf (bytes : List UInt8) : Except IoFailure String :=
  match String.fromUTF8? ⟨bytes.toArray⟩ with
  | some text => .ok text
  | none => .error .invalidText

/-- The settings in a file; `content` is what reading it gave. -/
def Settings.load (path : String) (content : Except IoFailure (List UInt8)) :
    Except SettingsError Settings :=
  match content with
  | .error e => .error (.unreadable path e)
  | .ok bytes =>
    match Settings.textOf bytes with
    | .error e => .error (.unreadable path e)
    | .ok text =>
      match Settings.ofJson text with
      | .error e => .error (.json e)
      | .ok settings => .ok settings

end KeyBench
