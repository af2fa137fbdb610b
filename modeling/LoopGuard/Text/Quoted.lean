import LoopGuard.Text.Printable

/-!
# Quoted text

How a message shows a character or a text between quotes: the quote, the backslash and the common
controls by their short escapes, whatever cannot be seen by its code point, everything else as it
is. This is the debug form of a text, in which errors show an alias or a key.
-/

namespace LoopGuard

namespace Quoted

/-- The digits of a code point, in lower-case hexadecimal. -/
def hex (n : Nat) : List Char := Nat.toDigits 16 n

/-- How a character is shown between quotes that are written as `quote`. -/
def escapeChar (quote c : Char) : List Char :=
  if c == '\x00' then ['\\', '0']
  else if c == '\t' then ['\\', 't']
  else if c == '\n' then ['\\', 'n']
  else if c == '\r' then ['\\', 'r']
  else if c == '\\' then ['\\', '\\']
  else if c == quote then ['\\', c]
  else if CharSet.graphemeExtend.contains c || CharSet.unprintable.contains c then
    ['\\', 'u', '\x7b'] ++ hex c.toNat ++ ['\x7d']
  else [c]

/-- A text between double quotes. -/
def quoted (s : String) : String :=
  String.ofList ('"' :: (s.toList.flatMap (escapeChar '"') ++ ['"']))

/-- A character between single quotes. -/
def quotedChar (c : Char) : String := String.ofList ('\'' :: (escapeChar '\'' c ++ ['\'']))

end Quoted

end LoopGuard
