import KeyBench.Text.Hex
import KeyBench.Text.Shown

/-!
# Quoted texts

A text that a message cites stands in double quotes. A quote and a backslash follow a backslash,
NUL, tab, line feed and carriage return have letters of their own, and every other character that
is not shown as it is becomes `\u{…}` with its code point in hexadecimal.
-/

namespace KeyBench.Text

/-- How one character of a cited text is written. -/
def quoteChar (c : Char) : List Char :=
  if c = '"' then ['\\', '"']
  else if c = '\\' then ['\\', '\\']
  else if c = '\x00' then ['\\', '0']
  else if c = '\t' then ['\\', 't']
  else if c = '\r' then ['\\', 'r']
  else if c = '\n' then ['\\', 'n']
  else if isShown c then [c]
  else ['\\', 'u', '\x7b'] ++ hexNumber c.toNat ++ ['\x7d']

/-- The text as a message cites it. -/
def quote (s : String) : String :=
  String.ofList (['"'] ++ s.toList.flatMap quoteChar ++ ['"'])

end KeyBench.Text
