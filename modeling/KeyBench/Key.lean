import KeyBench.Usage

/-!
# Keys

The keys of the matrix that the bench can press. A key has a slot (its place in the scan matrix),
a name in the notation for events, and the usage that the firmware reports for it; its label and
the name under which the host knows it are those of the usage.
-/

namespace KeyBench

/-- A key of the matrix. -/
inductive Key where
  | escape | digit1 | digit2 | digit3 | digit4 | digit5 | digit6 | digit7 | digit8 | digit9
  | digit0 | minus | equals | backspace | delete | tab | letterQ | letterW | letterE | letterR
  | letterT | letterY | letterU | letterI | letterO | letterP | leftBracket | rightBracket
  | backslash | home | capsLock | letterA | letterS | letterD | letterF | letterG | letterH
  | letterJ | letterK | letterL | semicolon | quote | enter | pageUp | leftShift | letterZ
  | letterX | letterC | letterV | letterB | letterN | letterM | comma | period | slash
  | rightShift | up | pageDown | leftCtrl | leftGui | leftAlt | space | rightAlt | left | down
  | right
  deriving DecidableEq, Repr

namespace Key

/-- All keys, by rising slot. -/
def all : List Key := [
  .escape, .digit1, .digit2, .digit3, .digit4, .digit5, .digit6, .digit7, .digit8, .digit9,
  .digit0, .minus, .equals, .backspace, .delete, .tab, .letterQ, .letterW, .letterE, .letterR,
  .letterT, .letterY, .letterU, .letterI, .letterO, .letterP, .leftBracket, .rightBracket,
  .backslash, .home, .capsLock, .letterA, .letterS, .letterD, .letterF, .letterG, .letterH,
  .letterJ, .letterK, .letterL, .semicolon, .quote, .enter, .pageUp, .leftShift, .letterZ,
  .letterX, .letterC, .letterV, .letterB, .letterN, .letterM, .comma, .period, .slash,
  .rightShift, .up, .pageDown, .leftCtrl, .leftGui, .leftAlt, .space, .rightAlt, .left, .down,
  .right]

/-- What is on record about a key. -/
structure Entry where
  slot : UInt8
  name : String
  usage : Usage

/-- The record of a key. -/
def entry : Key → Entry
  | .escape => ⟨0x00, "ESC", .escape⟩
  | .digit1 => ⟨0x01, "1", .digit1⟩
  | .digit2 => ⟨0x02, "2", .digit2⟩
  | .digit3 => ⟨0x03, "3", .digit3⟩
  | .digit4 => ⟨0x04, "4", .digit4⟩
  | .digit5 => ⟨0x05, "5", .digit5⟩
  | .digit6 => ⟨0x06, "6", .digit6⟩
  | .digit7 => ⟨0x07, "7", .digit7⟩
  | .digit8 => ⟨0x08, "8", .digit8⟩
  | .digit9 => ⟨0x09, "9", .digit9⟩
  | .digit0 => ⟨0x0A, "0", .digit0⟩
  | .minus => ⟨0x0B, "-", .minus⟩
  | .equals => ⟨0x0C, "=", .equals⟩
  | .backspace => ⟨0x0D, "BKSP", .backspace⟩
  | .delete => ⟨0x0E, "DEL", .delete⟩
  | .tab => ⟨0x0F, "TAB", .tab⟩
  | .letterQ => ⟨0x10, "q", .letterQ⟩
  | .letterW => ⟨0x11, "w", .letterW⟩
  | .letterE => ⟨0x12, "e", .letterE⟩
  | .letterR => ⟨0x13, "r", .letterR⟩
  | .letterT => ⟨0x14, "t", .letterT⟩
  | .letterY => ⟨0x15, "y", .letterY⟩
  | .letterU => ⟨0x16, "u", .letterU⟩
  | .letterI => ⟨0x17, "i", .letterI⟩
  | .letterO => ⟨0x18, "o", .letterO⟩
  | .letterP => ⟨0x19, "p", .letterP⟩
  | .leftBracket => ⟨0x1A, "[", .leftBracket⟩
  | .rightBracket => ⟨0x1B, "]", .rightBracket⟩
  | .backslash => ⟨0x1C, "\\", .backslash⟩
  | .home => ⟨0x1D, "HOME", .home⟩
  | .capsLock => ⟨0x1E, "CAPSLOCK", .capsLock⟩
  | .letterA => ⟨0x1F, "a", .letterA⟩
  | .letterS => ⟨0x20, "s", .letterS⟩
  | .letterD => ⟨0x21, "d", .letterD⟩
  | .letterF => ⟨0x22, "f", .letterF⟩
  | .letterG => ⟨0x23, "g", .letterG⟩
  | .letterH => ⟨0x24, "h", .letterH⟩
  | .letterJ => ⟨0x25, "j", .letterJ⟩
  | .letterK => ⟨0x26, "k", .letterK⟩
  | .letterL => ⟨0x27, "l", .letterL⟩
  | .semicolon => ⟨0x28, ";", .semicolon⟩
  | .quote => ⟨0x29, "'", .quote⟩
  | .enter => ⟨0x2B, "ENTER", .enter⟩
  | .pageUp => ⟨0x2C, "PGUP", .pageUp⟩
  | .leftShift => ⟨0x2D, "LSHIFT", .leftShift⟩
  | .letterZ => ⟨0x2F, "z", .letterZ⟩
  | .letterX => ⟨0x30, "x", .letterX⟩
  | .letterC => ⟨0x31, "c", .letterC⟩
  | .letterV => ⟨0x32, "v", .letterV⟩
  | .letterB => ⟨0x33, "b", .letterB⟩
  | .letterN => ⟨0x34, "n", .letterN⟩
  | .letterM => ⟨0x35, "m", .letterM⟩
  | .comma => ⟨0x36, ",", .comma⟩
  | .period => ⟨0x37, ".", .period⟩
  | .slash => ⟨0x38, "/", .slash⟩
  | .rightShift => ⟨0x39, "RSHIFT", .rightShift⟩
  | .up => ⟨0x3A, "UP", .up⟩
  | .pageDown => ⟨0x3B, "PGDN", .pageDown⟩
  | .leftCtrl => ⟨0x3C, "LCTRL", .leftCtrl⟩
  | .leftGui => ⟨0x3D, "LGUI", .leftGui⟩
  | .leftAlt => ⟨0x3E, "LALT", .leftAlt⟩
  | .space => ⟨0x42, "SPACE", .space⟩
  | .rightAlt => ⟨0x46, "RALT", .rightAlt⟩
  | .left => ⟨0x48, "LEFT", .left⟩
  | .down => ⟨0x49, "DOWN", .down⟩
  | .right => ⟨0x4A, "RIGHT", .right⟩

/-- The key's place in the scan matrix. -/
def slot (k : Key) : UInt8 := k.entry.slot

/-- The key's name in the notation for events. -/
def name (k : Key) : String := k.entry.name

/-- The usage that the firmware reports for the key. -/
def usage (k : Key) : Usage := k.entry.usage

/-- The word for the key in messages about the tables. -/
def label (k : Key) : String := k.usage.label

/-- The name under which the host reports the key. -/
def hostName (k : Key) : String := k.usage.hostName?.getD ""

theorem mem_all (k : Key) : k ∈ all := by cases k <;> decide

end Key

end KeyBench
