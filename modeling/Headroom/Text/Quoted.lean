import Headroom.Text.Extending
import Headroom.Text.Unprintable
/-!
# Quoted text

A text inside messages stands between double quotes. The quote and the backslash take a backslash,
tab, line feed, carriage return and NUL have short forms, and every other character that cannot be
seen by itself is written by its code point in lower-case hexadecimal digits.
-/

namespace Headroom.Text

/-- Whether a character is written by its code point. ASCII needs no look at the tables. -/
def needsCodePoint (c : Char) : Bool :=
  if c.toNat < 0x7f then c.toNat < 0x20 else isExtending c || isUnprintable c

/-- The written form of one character. -/
def escape (c : Char) : List Char :=
  if c = '"' then ['\\', '"']
  else if c = '\\' then ['\\', '\\']
  else if c = '\t' then ['\\', 't']
  else if c = '\n' then ['\\', 'n']
  else if c = '\r' then ['\\', 'r']
  else if c.toNat = 0 then ['\\', '0']
  else if needsCodePoint c then
    ['\\', 'u', '\x7b'] ++ Nat.toDigits 16 c.toNat ++ ['\x7d']
  else [c]

/-- A text between double quotes with every unseen character escaped. -/
def quoted (text : String) : String :=
  String.ofList ('"' :: (text.toList.flatMap escape ++ ['"']))

end Headroom.Text
