/-!
# Quoted JSON strings

The text of a JSON string as `serde_json` writes it: quotes, backslashes and control characters are
escaped, everything else stands for itself. Five control characters have short escapes, the others
are written with four hexadecimal digits. The slash, the delete character and the line separators of
Unicode are not escaped, so the text of a string is a literal of the same string in a script.

Results:
* `quote_eq`: a quoted string is the escapes of its characters between double quotes.
-/

namespace LoopGuard

namespace Json

/-- A hexadecimal digit in lower case. -/
def hexDigit (n : Nat) : Char :=
  if n < 10 then Char.ofNat ('0'.toNat + n) else Char.ofNat ('a'.toNat + (n - 10))

/-- How a character is written inside a string: by its short escape, by its digits, or as it is. -/
def escapeChar (c : Char) : List Char :=
  if c = '"' then ['\\', '"']
  else if c = '\\' then ['\\', '\\']
  else if c = '\x08' then ['\\', 'b']
  else if c = '\t' then ['\\', 't']
  else if c = '\n' then ['\\', 'n']
  else if c = '\x0c' then ['\\', 'f']
  else if c = '\r' then ['\\', 'r']
  else if c.toNat < 0x20 then
    ['\\', 'u', '0', '0', hexDigit (c.toNat / 16), hexDigit (c.toNat % 16)]
  else [c]

/-- The characters of a quoted string. -/
def quoteChars (cs : List Char) : List Char := '"' :: (cs.flatMap escapeChar ++ ['"'])

/-- A quoted string. -/
def quote (s : String) : String := String.ofList (quoteChars s.toList)

theorem quote_eq (s : String) :
    (quote s).toList = '"' :: (s.toList.flatMap escapeChar ++ ['"']) := by
  simp [quote, quoteChars]

end Json

end LoopGuard
