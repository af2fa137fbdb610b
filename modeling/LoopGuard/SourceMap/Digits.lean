/-!
# Numbers in mappings

The numbers of variable length of the package `sourcemap` (`parse_vlq_segment_into`), and the faults
of its maps. A mapping is written as signed numbers, each as one or more characters of six bits:
five bits of the number, lowest first, and a bit that says whether more follow. The lowest bit of
the whole is the sign. A character outside the alphabet is not a fault: its table entry is minus
one, which counts as a digit with all bits set.
-/

namespace LoopGuard

/-- Why a source map is refused: the errors of the package that a text can lead to. -/
inductive MapFault where
  /-- The map is no JSON text, or not of the right shape. -/
  | json (words : String)
  | expectedNewline
  /-- The map is a list of maps, or one with function names. -/
  | incompatible
  | segmentSize (size : Nat)
  | badSource (index : Nat)
  | badName (index : Nat)
  | unfinishedNumber
  | numberOverflow
  | emptySegment
  | badRangeCharacter (c : Char)
  deriving Repr, DecidableEq, Inhabited

/-- The message of a fault. -/
def MapFault.text : MapFault → String
  | json words => "bad json: " ++ words
  | expectedNewline => "expected newline"
  | incompatible => "encountered incompatible sourcemap format"
  | segmentSize size => "got " ++ Nat.repr size ++ " segments, expected 4 or 5"
  | badSource index => "bad reference to source #" ++ Nat.repr index
  | badName index => "bad reference to name #" ++ Nat.repr index
  | unfinishedNumber => "leftover cur/shift in vlq decode"
  | numberOverflow => "vlq decode caused an overflow"
  | emptySegment => "vlq decode did not produce any values"
  | badRangeCharacter c => "invalid base64 character: " ++ String.ofList [c]

namespace Digits

/-- The characters for the digits from 0 to 63. -/
def alphabet : List Char :=
  "ABCDEFGHIJKLMNOPQRSTUVWXYZabcdefghijklmnopqrstuvwxyz0123456789+/".toList

/-- The character for a digit. -/
def char (digit : Nat) : Char := alphabet.getD digit 'A'

/-- The digit a character stands for. -/
def digit? (c : Char) : Option Nat := alphabet.idxOf? c

/-- Five bits of a number, and whether more follow. -/
structure Piece where
  bits : Nat
  continues : Bool
  deriving Repr, DecidableEq, Inhabited

/-- The pieces that a character stands for. One that is no digit counts for every byte of its own as
five set bits that something follows. -/
def pieces (c : Char) : List Piece :=
  match digit? c with
  | some d => [⟨d % 32, d ≥ 32⟩]
  | none => List.replicate c.utf8Size ⟨31, true⟩

/-- A number of 64 bits and a sign, the lowest bit. -/
def signed (n : Int) : Int := if n % 2 = 0 then n / 2 else -(n / 2)

/-- The numbers of a list of pieces, where `shift` bits of the present number, `sum`, have been
read. Numbers wrap around at 64 bits. -/
def numbersFrom : Int → Nat → List Piece → Except MapFault (List Int)
  | sum, shift, [] => if sum ≠ 0 ∨ shift ≠ 0 then .error .unfinishedNumber else .ok []
  | sum, shift, p :: rest =>
    if shift ≥ 64 then .error .numberOverflow
    else
      let sum := (sum + (p.bits <<< shift : Nat)).bmod UInt64.size
      if p.continues then numbersFrom sum (shift + 5) rest
      else do return signed sum :: (← numbersFrom 0 0 rest)

/-- The numbers of a segment. -/
def numbers (segment : List Char) : Except MapFault (List Int) := do
  let ns ← numbersFrom 0 0 (segment.flatMap pieces)
  if ns.isEmpty then .error .emptySegment else .ok ns

/-- The characters for a natural number. -/
def encodeNat (n : Nat) : List Char :=
  if n < 32 then [char n] else char (n % 32 + 32) :: encodeNat (n / 32)
termination_by n
decreasing_by omega

/-- The characters for a number. -/
def encode (n : Int) : List Char :=
  encodeNat (if n < 0 then 2 * n.natAbs + 1 else 2 * n.natAbs)

end Digits

end LoopGuard
