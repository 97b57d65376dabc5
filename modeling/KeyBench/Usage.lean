/-!
# Usages

The usages of the HID Keyboard/Keypad page that a keyboard of the boot protocol reports: the error
codes, the alphanumeric block, the navigation cluster and the eight modifiers. A usage has a
one-byte code, a label for messages and, unless it stands for an error, the name under which the
host's input system reports the key.
-/

namespace KeyBench

/-- A usage of the Keyboard/Keypad page. -/
inductive Usage where
  | noKey | rollOverError | selfTestFailure | undefinedError | letterA | letterB | letterC
  | letterD | letterE | letterF | letterG | letterH | letterI | letterJ | letterK | letterL
  | letterM | letterN | letterO | letterP | letterQ | letterR | letterS | letterT | letterU
  | letterV | letterW | letterX | letterY | letterZ | digit1 | digit2 | digit3 | digit4 | digit5
  | digit6 | digit7 | digit8 | digit9 | digit0 | enter | escape | backspace | tab | space | minus
  | equals | leftBracket | rightBracket | backslash | nonUsHash | semicolon | quote | backquote
  | comma | period | slash | capsLock | f1 | f2 | f3 | f4 | f5 | f6 | f7 | f8 | f9 | f10 | f11
  | f12 | printScreen | scrollLock | pause | insert | home | pageUp | delete | endKey | pageDown
  | right | left | down | up | numLock | leftCtrl | leftShift | leftAlt | leftGui | rightCtrl
  | rightShift | rightAlt | rightGui
  deriving DecidableEq, Repr

namespace Usage

/-- All usages, by rising code. -/
def all : List Usage := [
  .noKey, .rollOverError, .selfTestFailure, .undefinedError, .letterA, .letterB, .letterC,
  .letterD, .letterE, .letterF, .letterG, .letterH, .letterI, .letterJ, .letterK, .letterL,
  .letterM, .letterN, .letterO, .letterP, .letterQ, .letterR, .letterS, .letterT, .letterU,
  .letterV, .letterW, .letterX, .letterY, .letterZ, .digit1, .digit2, .digit3, .digit4, .digit5,
  .digit6, .digit7, .digit8, .digit9, .digit0, .enter, .escape, .backspace, .tab, .space, .minus,
  .equals, .leftBracket, .rightBracket, .backslash, .nonUsHash, .semicolon, .quote, .backquote,
  .comma, .period, .slash, .capsLock, .f1, .f2, .f3, .f4, .f5, .f6, .f7, .f8, .f9, .f10, .f11,
  .f12, .printScreen, .scrollLock, .pause, .insert, .home, .pageUp, .delete, .endKey, .pageDown,
  .right, .left, .down, .up, .numLock, .leftCtrl, .leftShift, .leftAlt, .leftGui, .rightCtrl,
  .rightShift, .rightAlt, .rightGui]

/-- What is on record about a usage. -/
structure Entry where
  code : UInt8
  label : String
  hostName? : Option String

/-- The record of a usage. -/
def entry : Usage → Entry
  | .noKey => ⟨0x00, "None", none⟩
  | .rollOverError => ⟨0x01, "ErrRollOver", none⟩
  | .selfTestFailure => ⟨0x02, "PostFail", none⟩
  | .undefinedError => ⟨0x03, "ErrUndefined", none⟩
  | .letterA => ⟨0x04, "A", some "a"⟩
  | .letterB => ⟨0x05, "B", some "b"⟩
  | .letterC => ⟨0x06, "C", some "c"⟩
  | .letterD => ⟨0x07, "D", some "d"⟩
  | .letterE => ⟨0x08, "E", some "e"⟩
  | .letterF => ⟨0x09, "F", some "f"⟩
  | .letterG => ⟨0x0A, "G", some "g"⟩
  | .letterH => ⟨0x0B, "H", some "h"⟩
  | .letterI => ⟨0x0C, "I", some "i"⟩
  | .letterJ => ⟨0x0D, "J", some "j"⟩
  | .letterK => ⟨0x0E, "K", some "k"⟩
  | .letterL => ⟨0x0F, "L", some "l"⟩
  | .letterM => ⟨0x10, "M", some "m"⟩
  | .letterN => ⟨0x11, "N", some "n"⟩
  | .letterO => ⟨0x12, "O", some "o"⟩
  | .letterP => ⟨0x13, "P", some "p"⟩
  | .letterQ => ⟨0x14, "Q", some "q"⟩
  | .letterR => ⟨0x15, "R", some "r"⟩
  | .letterS => ⟨0x16, "S", some "s"⟩
  | .letterT => ⟨0x17, "T", some "t"⟩
  | .letterU => ⟨0x18, "U", some "u"⟩
  | .letterV => ⟨0x19, "V", some "v"⟩
  | .letterW => ⟨0x1A, "W", some "w"⟩
  | .letterX => ⟨0x1B, "X", some "x"⟩
  | .letterY => ⟨0x1C, "Y", some "y"⟩
  | .letterZ => ⟨0x1D, "Z", some "z"⟩
  | .digit1 => ⟨0x1E, "Num1", some "1"⟩
  | .digit2 => ⟨0x1F, "Num2", some "2"⟩
  | .digit3 => ⟨0x20, "Num3", some "3"⟩
  | .digit4 => ⟨0x21, "Num4", some "4"⟩
  | .digit5 => ⟨0x22, "Num5", some "5"⟩
  | .digit6 => ⟨0x23, "Num6", some "6"⟩
  | .digit7 => ⟨0x24, "Num7", some "7"⟩
  | .digit8 => ⟨0x25, "Num8", some "8"⟩
  | .digit9 => ⟨0x26, "Num9", some "9"⟩
  | .digit0 => ⟨0x27, "Num0", some "0"⟩
  | .enter => ⟨0x28, "Enter", some "enter"⟩
  | .escape => ⟨0x29, "Esc", some "esc"⟩
  | .backspace => ⟨0x2A, "Backspace", some "backspace"⟩
  | .tab => ⟨0x2B, "Tab", some "tab"⟩
  | .space => ⟨0x2C, "Space", some "space"⟩
  | .minus => ⟨0x2D, "Minus", some "-"⟩
  | .equals => ⟨0x2E, "Equals", some "="⟩
  | .leftBracket => ⟨0x2F, "LeftBracket", some "["⟩
  | .rightBracket => ⟨0x30, "RightBracket", some "]"⟩
  | .backslash => ⟨0x31, "Backslash", some "\\"⟩
  | .nonUsHash => ⟨0x32, "NonUsPound", some "nonus hash"⟩
  | .semicolon => ⟨0x33, "Semicolon", some ";"⟩
  | .quote => ⟨0x34, "Quote", some "'"⟩
  | .backquote => ⟨0x35, "Backquote", some "`"⟩
  | .comma => ⟨0x36, "Comma", some ","⟩
  | .period => ⟨0x37, "Period", some "."⟩
  | .slash => ⟨0x38, "Slash", some "/"⟩
  | .capsLock => ⟨0x39, "CapsLock", some "caps lock"⟩
  | .f1 => ⟨0x3A, "F1", some "f1"⟩
  | .f2 => ⟨0x3B, "F2", some "f2"⟩
  | .f3 => ⟨0x3C, "F3", some "f3"⟩
  | .f4 => ⟨0x3D, "F4", some "f4"⟩
  | .f5 => ⟨0x3E, "F5", some "f5"⟩
  | .f6 => ⟨0x3F, "F6", some "f6"⟩
  | .f7 => ⟨0x40, "F7", some "f7"⟩
  | .f8 => ⟨0x41, "F8", some "f8"⟩
  | .f9 => ⟨0x42, "F9", some "f9"⟩
  | .f10 => ⟨0x43, "F10", some "f10"⟩
  | .f11 => ⟨0x44, "F11", some "f11"⟩
  | .f12 => ⟨0x45, "F12", some "f12"⟩
  | .printScreen => ⟨0x46, "PrintScreen", some "print screen"⟩
  | .scrollLock => ⟨0x47, "ScrollLock", some "scroll lock"⟩
  | .pause => ⟨0x48, "Pause", some "pause"⟩
  | .insert => ⟨0x49, "Insert", some "insert"⟩
  | .home => ⟨0x4A, "Home", some "home"⟩
  | .pageUp => ⟨0x4B, "PageUp", some "page up"⟩
  | .delete => ⟨0x4C, "Delete", some "delete"⟩
  | .endKey => ⟨0x4D, "End", some "end"⟩
  | .pageDown => ⟨0x4E, "PageDown", some "page down"⟩
  | .right => ⟨0x4F, "Right", some "right"⟩
  | .left => ⟨0x50, "Left", some "left"⟩
  | .down => ⟨0x51, "Down", some "down"⟩
  | .up => ⟨0x52, "Up", some "up"⟩
  | .numLock => ⟨0x53, "PadNumLock", some "num lock"⟩
  | .leftCtrl => ⟨0xE0, "LeftCtrl", some "left ctrl"⟩
  | .leftShift => ⟨0xE1, "LeftShift", some "left shift"⟩
  | .leftAlt => ⟨0xE2, "LeftAlt", some "left alt"⟩
  | .leftGui => ⟨0xE3, "LeftGui", some "left gui"⟩
  | .rightCtrl => ⟨0xE4, "RightCtrl", some "right ctrl"⟩
  | .rightShift => ⟨0xE5, "RightShift", some "right shift"⟩
  | .rightAlt => ⟨0xE6, "RightAlt", some "right alt"⟩
  | .rightGui => ⟨0xE7, "RightGui", some "right gui"⟩

/-- The code on the wire between keyboard and host. -/
def code (u : Usage) : UInt8 := u.entry.code

/-- The word for the usage in messages about the tables. -/
def label (u : Usage) : String := u.entry.label

/-- The name under which the host reports the key; an error code has none. -/
def hostName? (u : Usage) : Option String := u.entry.hostName?

/-- The usage as it is shown: by its host name, and by its label where it has none. -/
def display (u : Usage) : String := u.hostName?.getD u.label

/-- The usage of a code. A code without a usage counts as no key. -/
def ofCode (b : UInt8) : Usage := (all.find? fun u => u.code == b).getD .noKey

theorem mem_all (u : Usage) : u ∈ all := by cases u <;> decide

end Usage

end KeyBench
