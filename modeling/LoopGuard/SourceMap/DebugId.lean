import LoopGuard.Json.Reader

/-!
# Debug ids

The type `DebugId` of the package `debugid`, which `sourcemap` reads and writes with a map. An id
ties a source map to a build: sixteen bytes, written as hexadecimal digits, and a number that counts
what was made under them. Old ids have four bytes, a timestamp, in front of the number; they are
kept as ids whose other bytes are zero, and written in their own way.
-/

namespace LoopGuard

/-- An id: its 32 digits in lower case, and its number. -/
structure DebugId where
  digits : List Char
  appendix : Nat
  deriving Repr, DecidableEq, Inhabited

namespace DebugId

/-- Whether all characters are hexadecimal digits. -/
def areHex (cs : List Char) : Bool := cs.all fun c => (Json.Reader.hexValue? c).isSome

/-- The number that hexadecimal digits denote. -/
def hexNumber (cs : List Char) : Nat :=
  cs.foldl (fun n c => n * 16 + (Json.Reader.hexValue? c).getD 0) 0

/-- A number of 32 bits in hexadecimal digits, with a plus sign in front or without. -/
def hexWord? (cs : List Char) : Option Nat :=
  let digits := if cs.head? == some '+' then cs.tail else cs
  if digits.isEmpty || !areHex digits || hexNumber digits ≥ UInt32.size then none
  else some (hexNumber digits)

/-- The eight digits of a number of 32 bits. -/
def wordDigits (n : Nat) : List Char :=
  let digits := Nat.toDigits 16 n
  List.replicate (8 - digits.length) '0' ++ digits

/-- Digits of an id with hyphens between its five groups. -/
def hyphenated (digits : List Char) : List Char :=
  digits.take 8 ++ '-' :: (digits.drop 8).take 4 ++ '-' :: (digits.drop 12).take 4 ++ '-' ::
    (digits.drop 16).take 4 ++ '-' :: digits.drop 20

/-- Reads an old id: eight characters for the timestamp, then the number. -/
def ofTimestamp? (timestamp number : List Char) : Option DebugId := do
  return ⟨wordDigits (← hexWord? timestamp) ++ List.replicate 24 '0', ← hexWord? number⟩

/-- Reads an id with 32 digits in its first `size` characters, and its number behind these, if it is
written. -/
def ofDigits? (isHyphenated : Bool) (size : Nat) (cs : List Char) : Option DebugId := do
  let digits := (cs.take size).filter (· != '-')
  let shape := if isHyphenated then hyphenated digits else digits
  if digits.length != 32 || !areHex digits || shape != cs.take size then none
  else
    let digits := digits.map Char.toLower
    match cs.drop size with
    | [] => return ⟨digits, 0⟩
    | c :: rest =>
      if isHyphenated != (c == '-') then none
      else return ⟨digits, ← hexWord? (if isHyphenated then rest else c :: rest)⟩

/-- Reads an id. One with a hyphen behind its eighth character has hyphens between all its parts,
any other has none. -/
def ofString? (s : String) : Option DebugId :=
  let cs := s.toList
  let isHyphenated := cs[8]? == some '-'
  let behind := if isHyphenated then 9 else 8
  if behind < cs.length && cs.length ≤ behind + 8 then ofTimestamp? (cs.take 8) (cs.drop behind)
  else ofDigits? isHyphenated (if isHyphenated then 36 else 32) cs

/-- Whether an id is an old one. -/
def hasTimestamp (d : DebugId) : Bool :=
  (d.digits.drop 8).all (· == '0') && !(d.digits.all (· == '0') && d.appendix == 0)

/-- An id as it is written: a timestamp in upper case, or all digits with hyphens between their
groups; and its number, unless that is zero. -/
def text (d : DebugId) : String :=
  let front :=
    if d.hasTimestamp then (d.digits.take 8).map Char.toUpper else hyphenated d.digits
  let back := if d.appendix == 0 then [] else '-' :: Nat.toDigits 16 d.appendix
  String.ofList (front ++ back)

end DebugId

end LoopGuard
