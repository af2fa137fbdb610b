import LoopGuard.Syntax.Lexer.Comments

/-!
# Literals and names

The tokens with an inside: numbers, strings, template text, regular expressions and words. What is
wrong inside one is noted where the lexer of `swc_ecma_parser` notes it, which is not always where
it stands, and decides whether the token can still be used. Regular expressions are not looked into.
-/

namespace LoopGuard

namespace Lexer

open Scan

/-! ## Digits -/

/-- Whether the character is a digit in a base up to sixteen, letters in either case. -/
def isDigitIn (base : Nat) (c : Char) : Bool :=
  (c.isDigit && c.toNat - '0'.toNat < base)
    || (base == 16 && (('a' ≤ c && c ≤ 'f') || ('A' ≤ c && c ≤ 'F')))

/-- Reads digits as long as `goesOn` says of those read so far, and stray separators between them. A
separator with no digit somewhere in front of it or none right behind it is a fault where the digits
start. Answers the digits. -/
def digits (base : Nat) (goesOn : List Char → Bool) : Scan (List Char) := do
  let start ← position
  accumulate start ((← get).source.size - start + 2) []
where
  /-- Reads on, given the digits read so far, last first. -/
  accumulate (start : Nat) : Nat → List Char → Scan (List Char)
    | 0, read => return read.reverse
    | fuel + 1, read => do
      if !goesOn read then return read.reverse
      match ← peek with
      | none => return read.reverse
      | some c =>
        if c == '_' then
          let fine := !read.isEmpty && ((← peekAt 1).map (isDigitIn base)).getD false
          if !fine then note start .misplacedSeparator
          advance 1
          accumulate start fuel read
        else if isDigitIn base c then
          advance 1
          accumulate start fuel (c :: read)
        else return read.reverse

/-- Reads all digits that follow. -/
def allDigits (base : Nat) : Scan (List Char) := digits base fun _ => true

/-! ## Numbers -/

/-- Refuses a name directly behind a number, as in `3in`. -/
def refuseName : Scan Unit := do
  match ← peek with
  | some c => if isNameStart c then fail (← position) .nameAfterNumber
  | none => pure ()

/-- The number from `start` to here, as the text it is written with. -/
def numberFrom (start : Nat) : Scan Token := do
  refuseName
  return .number (← slice start (← position))

/-- `read_radix_number`: reads a number whose base is marked by a letter behind a zero. -/
def markedNumber (start base : Nat) : Scan Token := do
  advance 2
  let digitsStart ← position
  let ds ← allDigits base
  if ds.isEmpty then fail digitsStart (.expectedDigit base)
  if ← eat 'n' then return .bigint (← slice start (← position))
  numberFrom start

/-- Reads the fraction and the exponent of a decimal number, both of which may be missing. -/
def decimalTail (start : Nat) : Scan Token := do
  if ← eat '.' then
    let _ ← allDigits 10
  let mark ← peek
  if mark == some 'e' || mark == some 'E' then
    advance 1
    match ← peek with
    | none => fail (← position) .expectedExponentDigit
    | some c =>
      if c == '+' || c == '-' then advance 1
      let digitsStart ← position
      let ds ← allDigits 10
      if ds.isEmpty then fail digitsStart (.expectedDigit 10)
  numberFrom start

/-- `read_number`: reads a number. One that starts with a zero and goes on with digits is an old
octal or decimal number, which strict rules forbid. -/
def number : Scan Token := do
  let start ← position
  match ← peek, ← peekAt 1 with
  | some '.', _ => decimalTail start
  | some '0', some 'x' | some '0', some 'X' => markedNumber start 16
  | some '0', some 'o' | some '0', some 'O' => markedNumber start 8
  | some '0', some 'b' | some '0', some 'B' => markedNumber start 2
  | _, _ =>
    let ds ← allDigits 10
    if ← eat 'n' then return .bigint (← slice start (← position))
    let isLegacy := ds.head? == some '0' && (← position) > start + 1 && NumberText.isFinite ds
    if !isLegacy then decimalTail start
    else if ds.all (isDigitIn 8) then
      let token ← numberFrom start
      noteIfStrict start .legacyOctal
      return token
    else
      noteIfStrict start .legacyDecimal
      decimalTail start

/-! ## Escapes -/

/-- The value of hexadecimal digits read last first, or nothing if it does not fit into 32 bits. -/
def hexWord? (read : List Char) : Option Nat :=
  let value := NumberText.natural 16 read.reverse
  if value < UInt32.size then some value else none

/-- The value of a hexadecimal escape of a fixed number of digits, if it has them. -/
def hexOfWidth (width : Nat) : Scan (Option Nat) := do
  let ds ← digits 16 fun read => read.length < width
  return if ds.length == width then some (NumberText.natural 16 ds) else none

/-- The value of a hexadecimal escape of any number of digits, if it has one and fits into 32 bits.
No digit is read behind the one that makes it too great. -/
def hexOfAnyWidth : Scan (Option Nat) := do
  let ds ← digits 16 fun read => (hexWord? read).isSome
  return if ds.isEmpty then none else hexWord? ds.reverse

/-- Steps over what an escape in braces has between these, six characters at most. -/
def skipBraced : Nat → Scan Unit
  | 0 => pure ()
  | fuel + 1 => do
    match ← peek with
    | none | some '\x7d' => pure ()
    | some _ =>
      advance 1
      skipBraced fuel

/-- The text of an escape for a code unit no character stands for, as it was written from `start`
on. -/
def surrogateText (isBraced : Bool) (start : Nat) : Scan (List Char) := do
  modify ({ · with pos := start })
  if isBraced then skipBraced 6 else advance 4
  let body := (← slice start (← position)).toList
  return ['\\', 'u'] ++ (if isBraced then ['\x7b'] ++ body ++ ['\x7d'] else body)

/-- `read_unicode_escape`: reads an escape from the letter `u` on, with four digits or any number of
them in braces. -/
def unicodeEscape : Scan (List Char) := do
  advance 1
  let isBraced ← eat '\x7b'
  let start ← position
  let value ← if isBraced then hexOfAnyWidth else hexOfWidth 4
  let wanted := if isBraced then "1-6 hex characters" else "4 hex characters"
  match value with
  | none => fail (← position) (.badEscape wanted)
  | some n =>
    if n > 0x10ffff then
      let range := if isBraced then " in the range 0 to 10FFFF." else ""
      fail (← position) (.badEscape (wanted ++ range))
    let chars ←
      if n.isValidChar then pure [Char.ofNat n] else surrogateText isBraced start
    if isBraced then
      if !(← eat '\x7d') then fail start .invalidUnicodeEscape
    return chars

/-- Reads an octal escape of up to three digits, its first digit already read. -/
def octalEscape (first : Char) : Scan (List Char) := do
  let value (cs : List Char) : Nat := NumberText.natural 8 cs
  match ← peek with
  | some a =>
    if isDigitIn 8 a then
      advance 1
      match ← peek with
      | some b =>
        if isDigitIn 8 b && value [first, a, b] < 256 then
          advance 1
          return [Char.ofNat (value [first, a, b])]
        else return [Char.ofNat (value [first, a])]
      | none => return [Char.ofNat (value [first, a])]
    else return [Char.ofNat (value [first])]
  | none => return [Char.ofNat (value [first])]

/-- `read_escaped_char`: reads an escape from the backslash on. Answers what it stands for, which is
nothing for a line break. -/
def escape (inTemplate : Bool) : Scan (List Char) := do
  let start ← position
  advance 1
  match ← peek with
  | none => fail start .invalidStringEscape
  | some 'n' =>
    advance 1
    return ['\n']
  | some 'r' =>
    advance 1
    return ['\r']
  | some 't' =>
    advance 1
    return ['\t']
  | some 'b' =>
    advance 1
    return ['\x08']
  | some 'v' =>
    advance 1
    return ['\x0b']
  | some 'f' =>
    advance 1
    return ['\x0c']
  | some '\r' =>
    advance 1
    let _ ← eat '\n'
    return []
  | some 'x' =>
    advance 1
    match ← hexOfWidth 2 with
    | some n => return [Char.ofNat n]
    | none => fail start (.badEscape "2 hex characters")
  | some 'u' =>
    try unicodeEscape catch d => fail start d.fault
  | some c =>
    advance 1
    if c == '\n' || c == '\u2028' || c == '\u2029' then return []
    if isDigitIn 8 c then
      if c == '0' && !((← peek).map (isDigitIn 8)).getD false then return ['\x00']
      if inTemplate then fail start .legacyOctal
      noteIfStrict start .legacyOctal
      octalEscape c
    else return [c]

/-! ## Strings and templates -/

/-- `read_str_lit`: reads a string literal. One that is not closed ends with its line and is a fault
at its start. -/
def string (quote : Char) : Scan Token := do
  let start ← position
  advance 1
  let value ← accumulate ((← get).source.size - start + 2) []
  if !(← eat quote) then note start .unterminatedString
  return .string (String.ofList value) (← slice start (← position))
where
  /-- Reads up to the closing quote or the end of the line. -/
  accumulate : Nat → List (List Char) → Scan (List Char)
    | 0, parts => return parts.reverse.flatten
    | fuel + 1, parts => do
      match ← peek with
      | none => return parts.reverse.flatten
      | some c =>
        if c == quote || c == '\n' || c == '\r' then return parts.reverse.flatten
        else if c == '\\' then
          let cs ← escape false
          accumulate fuel (cs :: parts)
        else
          advance 1
          accumulate fuel ([c] :: parts)

/-- `read_tmpl_token`: reads template text up to a substitution or the end of the template. Escapes
that are wrong are remembered in the token, because a tagged template may hold them. -/
def templateText : Scan Token := do
  let start ← position
  let flaw ← accumulate ((← get).source.size - start + 2) none
  return .chunk (← slice start (← position)) flaw
where
  /-- Reads up to the end of the text. Answers the last escape that is wrong. -/
  accumulate : Nat → Option Diagnostic → Scan (Option Diagnostic)
    | 0, flaw => return flaw
    | fuel + 1, flaw => do
      match ← peek, ← peekAt 1 with
      | none, _ => fail (← get).templateStart .unterminatedTemplate
      | some '`', _ => return flaw
      | some '$', some '\x7b' => return flaw
      | some '\\', _ =>
        let flaw ← try
            let _ ← escape true
            pure flaw
          catch d => pure (some d)
        accumulate fuel flaw
      | some _, _ =>
        advance 1
        accumulate fuel flaw

/-! ## Regular expressions and words -/

/-- Reads the characters of a name and its escapes. Answers the name and whether it has escapes. An
escape may stand for a character that no name has; that is noted only. -/
def nameText : Scan (String × Bool) := do
  accumulate ((← get).source.size - (← position) + 2) [] false
where
  /-- Reads on while characters belong to the name. -/
  accumulate : Nat → List (List Char) → Bool → Scan (String × Bool)
    | 0, parts, escaped => return (String.ofList parts.reverse.flatten, escaped)
    | fuel + 1, parts, escaped => do
      match ← peek with
      | some '\\' =>
        let start ← position
        advance 1
        if (← peek) != some 'u' then fail start .expectedUnicodeEscape
        let cs ← unicodeEscape
        if !((cs.head?.map isNamePart).getD true) then note start .invalidNameCharacter
        accumulate fuel (cs :: parts) true
      | some c =>
        if isNamePart c then
          advance 1
          accumulate fuel ([c] :: parts) escaped
        else return (String.ofList parts.reverse.flatten, escaped)
      | none => return (String.ofList parts.reverse.flatten, escaped)

/-- Reads a word. One that starts with an escape is no keyword; an escape further on cannot make a
reserved word. -/
def word : Scan Token := do
  let start ← position
  let startsEscaped := (← peek) == some '\\'
  let (text, escaped) ← nameText
  if startsEscaped then return .escapedName text
  if escaped && (← get).context.isReserved text then fail start (.escapedReservedWord text)
  return .word text

/-- `read_regexp`: reads a regular expression from its opening slash on, with its flags. One that
its line does not close cannot be read. -/
def regex : Scan Token := do
  let start ← position
  advance 1
  let bodyStart ← position
  accumulate start ((← get).source.size - start + 2) false false
  let body ← slice bodyStart (← position)
  if !(← eat '/') then fail start .unterminatedRegex
  let hasFlags := ((← peek).map isNameStart).getD false
  return .regex body (← if hasFlags then Prod.fst <$> nameText else pure "")
where
  /-- Reads up to the closing slash: one that is neither escaped nor inside a class. -/
  accumulate (start : Nat) : Nat → Bool → Bool → Scan Unit
    | 0, _, _ => pure ()
    | fuel + 1, escaped, inClass => do
      match ← peek with
      | none => pure ()
      | some c =>
        if isLineBreak c then fail start .unterminatedRegex
        else if escaped then
          advance 1
          accumulate start fuel false inClass
        else if c == '/' && !inClass then pure ()
        else
          advance 1
          accumulate start fuel (c == '\\')
            (if c == '[' then true else if c == ']' then false else inClass)

end Lexer

end LoopGuard
