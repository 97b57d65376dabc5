/-!
# What goes wrong on the host

Failures of the operating system when files and devices are used, and of what the bench has on the
host: the way to the device and the queue of observations.
-/

namespace KeyBench

/-- Why a file or a device could not be used. -/
inductive IoFailure where
  /-- An error of the operating system, with its description and number. -/
  | system (description : String) (number : Nat)
  /-- The bytes read are no text. -/
  | invalidText
  /-- A sink took nothing of what was left to write. -/
  | nothingWritten
  /-- The path holds the character that ends a path. -/
  | endInPath
  | other (text : String)
  deriving DecidableEq, Repr

namespace IoFailure

/-- There is nothing at the path. -/
def notFound : IoFailure := .system "No such file or directory" 2

/-- The path leads through something that is no directory. -/
def notADirectory : IoFailure := .system "Not a directory" 20

/-- The path leads to a directory. -/
def isADirectory : IoFailure := .system "Is a directory" 21

/-- There is no room for what was written. -/
def noSpace : IoFailure := .system "No space left on device" 28

/-- The path, or a name in it, has too many bytes. -/
def nameTooLong : IoFailure := .system "File name too long" 36

/-- The failure as it is reported. -/
def message : IoFailure → String
  | .system description number => description ++ " (os error " ++ toString number ++ ")"
  | .invalidText => "stream did not contain valid UTF-8"
  | .nothingWritten => "failed to write whole buffer"
  | .endInPath => "file name contained an unexpected NUL byte"
  | .other text => text

end IoFailure

/-- Why the host could not do its part. -/
inductive HostError where
  | io (cause : IoFailure)
  | queueFull
  | queueClosed
  deriving DecidableEq, Repr

/-- The error as it is reported. -/
def HostError.message : HostError → String
  | .io cause => "transport error: " ++ cause.message
  | .queueFull => "capture queue is full"
  | .queueClosed => "capture queue is closed"

end KeyBench
