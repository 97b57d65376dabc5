import KeyBench.HostError
import KeyBench.Text.Blank

/-!
# Files and device nodes

What stands at which path, and what opening it for reading or writing gives. A file that is opened
for writing keeps its content: what is written goes over its start.

## How a path is followed

A path is cut at its slashes into names, and followed name by name: from the root if it starts with
a slash, and else from the working directory. A name that is empty or a dot stays where it is, two
dots lead to the directory above, and the root is above itself. Only a directory can be left by a
name, be it an empty one: `a/` leads nowhere if `a` is a file.
-/

namespace KeyBench

/-- What stands at a place. -/
inductive Node where
  | file (content : List UInt8)
  /-- The device of the bench. -/
  | device
  /-- A device that has no room for what is written to it. -/
  | fullDevice
  | directory
  deriving DecidableEq, Repr

/-- A tree of files. A place in it is the list of the names that lead there from the root. -/
structure Files where
  /-- What stands at which place; the places on the way there are directories. -/
  nodes : List (List String × Node)
  /-- The place from which paths start that do not start at the root. -/
  workingDirectory : List String

namespace Files

/-! ## Following a path -/

/-- Whether a path can be followed at all: the system takes it to end at the first NUL. -/
def isPath (path : String) : Bool := !path.toList.contains '\x00'

/-- The number of bytes below which the length of a path must stay. -/
def pathLimit : Nat := 4096

/-- The greatest length of a name, in bytes. -/
def nameLimit : Nat := 255

/-- What stands at a place. -/
def nodeAt? (files : Files) (place : List String) : Option Node :=
  match files.nodes.find? fun entry => entry.1 == place with
  | some entry => some entry.2
  | none =>
    if place.isEmpty || files.nodes.any fun entry => place.isPrefixOf entry.1 then some .directory
    else none

/-- Follows names from a place. -/
def follow (files : Files) (place : List String) (names : List String) : Except IoFailure Node :=
  match files.nodeAt? place, names with
  | none, _ => .error .notFound
  | some node, [] => .ok node
  | some .directory, name :: names =>
    if name = "" || name = "." then files.follow place names
    else if name = ".." then files.follow place.dropLast names
    else if nameLimit < name.utf8ByteSize then .error .nameTooLong
    else files.follow (place ++ [name]) names
  | some _, _ :: _ => .error .notADirectory

/-- What a path leads to. -/
def locate (files : Files) (path : String) : Except IoFailure Node :=
  if !isPath path then .error .endInPath
  else if path = "" then .error .notFound
  else if pathLimit ≤ path.utf8ByteSize then .error .nameTooLong
  else
    let names := (Text.pieces (· == '/') path.toList).map String.ofList
    files.follow (if path.toList.head? = some '/' then [] else files.workingDirectory) names

/-! ## Opening -/

/-- Opens a path for writing. -/
def openToWrite (files : Files) (path : String) : Except IoFailure Node :=
  match files.locate path with
  | .ok .directory => .error .isADirectory
  | result => result

/-- Reads what a path leads to. -/
def read (files : Files) (path : String) : Except IoFailure (List UInt8) :=
  match files.locate path with
  | .error e => .error e
  | .ok .directory => .error .isADirectory
  | .ok (.file content) => .ok content
  | .ok _ => .ok []

end Files

/-! ## Writing over a file -/

/-- A file that is open for writing. -/
structure OpenFile where
  content : List UInt8
  /-- Where the next byte goes. -/
  offset : Nat
  deriving DecidableEq, Repr

namespace OpenFile

/-- Opens a file at its start. -/
def ofContent (content : List UInt8) : OpenFile := ⟨content, 0⟩

/-- Writes bytes over what stands at the offset. -/
def write (f : OpenFile) (bytes : List UInt8) : OpenFile :=
  ⟨f.content.take f.offset ++ bytes ++ f.content.drop (f.offset + bytes.length),
    f.offset + bytes.length⟩

/-- The content of a file that has been opened several times and written to each time. -/
def writeSessions (content : List UInt8) (sessions : List (List (List UInt8))) : List UInt8 :=
  sessions.foldl (fun content session => (session.foldl write (ofContent content)).content) content

end OpenFile

end KeyBench
