/-!
# Options

What is given on the command line: the file of settings, the device, the seed and the number of
cases, each after a long name or after the first letter of that name, and the names of what is to
be run. A value is the next argument, or follows in the same one: after an equals sign, or
directly after the letter. After two hyphens alone all arguments are names.
-/

namespace KeyBench.Command

/-- What is given on the command line. -/
structure Options where
  config? : Option String
  device? : Option String
  seed? : Option UInt64
  caseCount? : Option UInt64
  names : List String
  deriving DecidableEq, Repr

namespace Options

/-- What is given where there are no arguments. -/
def empty : Options := ⟨none, none, none, none, []⟩

/-- An option that takes a value. -/
inductive Flag where
  | config
  | device
  | seed
  | caseCount
  deriving DecidableEq, Repr

/-- The flag of a long name. -/
def Flag.ofName? (name : List Char) : Option Flag :=
  if name = "config".toList then some .config
  else if name = "port".toList then some .device
  else if name = "seed".toList then some .seed
  else if name = "repeat".toList then some .caseCount
  else none

/-- The flag of a letter. -/
def Flag.ofLetter? : Char → Option Flag
  | 'c' => some .config
  | 'p' => some .device
  | 's' => some .seed
  | 'r' => some .caseCount
  | _ => none

/-- The number of 64 bits that a text writes in decimal digits, with or without a plus sign. -/
def number? (text : List Char) : Option UInt64 :=
  let digits := match text with
    | '+' :: rest => rest
    | _ => text
  if digits.isEmpty || !digits.all Char.isDigit then none
  else
    let n := digits.foldl (fun n c => 10 * n + (c.toNat - 0x30)) 0
    if n < UInt64.size then some (UInt64.ofNat n) else none

/-- Stores the value of a flag, if it is one. -/
def set? (o : Options) (flag : Flag) (value : String) : Option Options :=
  match flag with
  | .config => some { o with config? := some value }
  | .device => some { o with device? := some value }
  | .seed => (number? value.toList).map fun n => { o with seed? := some n }
  | .caseCount => (number? value.toList).map fun n => { o with caseCount? := some n }

/-- What an argument is. -/
inductive Argument where
  | name (text : String)
  | flag (flag : Flag)
  | flagWith (flag : Flag) (value : String)
  | endOfFlags
  | unknown

/-- Tells what an argument is. -/
def Argument.ofText (text : String) : Argument :=
  match text.toList with
  | ['-', '-'] => .endOfFlags
  | '-' :: '-' :: long =>
    match Flag.ofName? (long.takeWhile (· != '=')), long.dropWhile (· != '=') with
    | none, _ => .unknown
    | some f, [] => .flag f
    | some f, _ :: value => .flagWith f (String.ofList value)
  | '-' :: letter :: rest =>
    match Flag.ofLetter? letter, rest with
    | none, _ => .unknown
    | some f, [] => .flag f
    | some f, '=' :: value => .flagWith f (String.ofList value)
    | some f, value => .flagWith f (String.ofList value)
  | _ => .name text

/-- Reads arguments. Returns nothing if they are no options. -/
def parseInto (o : Options) : List String → Option Options
  | [] => some o
  | text :: rest =>
    match Argument.ofText text, rest with
    | .name name, rest => parseInto { o with names := o.names ++ [name] } rest
    | .flag f, value :: rest =>
      match o.set? f value with
      | none => none
      | some o' => parseInto o' rest
    | .flag _, [] => none
    | .flagWith f value, rest =>
      match o.set? f value with
      | none => none
      | some o' => parseInto o' rest
    | .endOfFlags, rest => some { o with names := o.names ++ rest }
    | .unknown, _ => none

/-- Reads the command line. -/
def parse (arguments : List String) : Option Options := parseInto empty arguments

end Options

end KeyBench.Command
