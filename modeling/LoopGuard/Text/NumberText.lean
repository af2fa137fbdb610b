import LoopGuard.Text.Shortest

/-!
# The value of a numeric literal

A literal in decimal or another base as a ratio of integers, and its value written in decimal.
Messages of the parser that show a token show the value of a number next to its text.
-/

namespace LoopGuard

namespace NumberText

/-- The value of a digit, letters counting on from ten. -/
def digit (c : Char) : Nat :=
  if c.isDigit then c.toNat - '0'.toNat
  else if 'a' ≤ c ∧ c ≤ 'z' then c.toNat - 'a'.toNat + 10
  else c.toNat - 'A'.toNat + 10

/-- The value of digits in a base. -/
def natural (base : Nat) (cs : List Char) : Nat := cs.foldl (fun n c => n * base + digit c) 0

/-- Whether the number that decimal digits denote is at most the greatest finite one. -/
def isFinite (ds : List Char) : Bool := !(Binary64.nearest (natural 10 ds) 1).isInfinite

/-- The digits of a literal without separators and without the mark of a big integer. -/
def bare (raw : String) : List Char := raw.toList.filter fun c => c != '_' && c != 'n'

/-- The base a literal is written in, and its digits. A zero in front makes a number octal if its
digits allow and it would not be infinite as a decimal. -/
def baseOf : List Char → Nat × List Char
  | '0' :: 'x' :: ds | '0' :: 'X' :: ds => (16, ds)
  | '0' :: 'o' :: ds | '0' :: 'O' :: ds => (8, ds)
  | '0' :: 'b' :: ds | '0' :: 'B' :: ds => (2, ds)
  | ds =>
    let isOctal := ds.length > 1 && ds.head? == some '0' && ds.all (fun c => '0' ≤ c && c ≤ '7')
      && isFinite ds
    if isOctal then (8, ds) else (10, ds)

/-- The ratio `digits * 10 ^ power`, where `size` bounds the number of digits. What is surely beyond
the greatest finite number, or too small to differ from zero, is not worked out exactly. -/
def scaledRatio (digits size : Nat) (power : Int) : Nat × Nat :=
  if digits == 0 || power + size < -400 then (0, 1)
  else if power > 400 then (Nat.pow 10 400, 1)
  else if power < 0 then (digits, Nat.pow 10 (-power).toNat)
  else (digits * Nat.pow 10 power.toNat, 1)

/-- The ratio that a decimal literal with fraction and exponent denotes. -/
def ratio (ds : List Char) : Nat × Nat :=
  let isExponent (c : Char) : Bool := c == 'e' || c == 'E'
  let number := ds.takeWhile (!isExponent ·)
  let exponent := (ds.dropWhile (!isExponent ·)).drop 1
  let whole := number.takeWhile (· != '.')
  let fraction := (number.dropWhile (· != '.')).drop 1
  let digits := natural 10 (whole ++ fraction)
  let size := natural 10 (exponent.filter Char.isDigit)
  let power : Int := if exponent.head? == some '-' then -(size : Int) else size
  scaledRatio digits (whole ++ fraction).length (power - fraction.length)

/-- The value of a numeric literal in decimal, as short as it can be and without an exponent. -/
def plain (raw : String) : String :=
  let (base, ds) := baseOf (bare raw)
  let (n, d) := if base == 10 then ratio ds else (natural base ds, 1)
  let value := Binary64.nearest n d
  if value.isInfinite then "inf" else (Decimal.shortest value).positional

/-- The value of a big integer literal in decimal. -/
def integer (raw : String) : String :=
  let (base, ds) := baseOf (bare raw)
  Nat.repr (natural base ds)

end NumberText

end LoopGuard
