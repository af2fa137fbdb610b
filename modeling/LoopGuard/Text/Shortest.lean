/-!
# Shortest decimals

Numbers with 53 significant bits, the one nearest to a given ratio, and the shortest decimal that is
nearer to a number than to its neighbours. Such numbers are integers times powers of two here, with
the exponents of doubles as bounds, so that rounding can be computed exactly.
-/

namespace LoopGuard

/-- The number `mantissa * 2 ^ exponent`. -/
structure Binary64 where
  mantissa : Nat
  exponent : Int
  deriving Repr, DecidableEq, Inhabited

namespace Binary64

/-- The value of the leading bit of a full mantissa, the 53rd. -/
def leadingBit : Nat := 0x10000000000000

/-- `n / d` as a ratio scaled by `2 ^ -e`: numerator and denominator. -/
def scale (n d : Nat) (e : Int) : Nat × Nat :=
  if e < 0 then (n <<< (-e).toNat, d) else (n, d <<< e.toNat)

/-- The quotient rounded to the nearest integer, a half to the even neighbour. -/
def roundDiv (n d : Nat) : Nat :=
  let q := n / d
  let r := n % d
  if 2 * r > d || (2 * r == d && q % 2 == 1) then q + 1 else q

/-- The least exponent from `e` on for which `n / d` has at most 53 bits above it. -/
def fitExponent (n d : Nat) : Nat → Int → Int
  | 0, e => e
  | fuel + 1, e =>
    let (sn, sd) := scale n d e
    if sn / sd < 2 * leadingBit then e else fitExponent n d fuel (e + 1)

/-- The number nearest to `n / d`, a tie going to the even mantissa. -/
def nearest (n d : Nat) : Binary64 :=
  if n == 0 then ⟨0, -1074⟩
  else
    let guess : Int := (Nat.log2 n : Int) - (Nat.log2 d : Int) - 54
    let e := fitExponent n d 8 (max guess (-1074))
    let (sn, sd) := scale n d e
    let m := roundDiv sn sd
    if m == 2 * leadingBit then ⟨leadingBit, e + 1⟩ else ⟨m, e⟩

/-- Whether the number is beyond the greatest finite one. -/
def isInfinite (b : Binary64) : Bool := b.mantissa > 0 && b.exponent > 971

end Binary64

/-- The decimal `digits * 10 ^ exponent`. -/
structure Decimal where
  digits : Nat
  exponent : Int
  deriving Repr, DecidableEq, Inhabited

namespace Decimal

/-- How `x * 10 ^ e` compares with the ratio `n / d`. -/
def compareScaled (x : Nat) (e : Int) (n d : Nat) : Ordering :=
  if e < 0 then compare (x * d) (n * Nat.pow 10 (-e).toNat)
  else compare (x * Nat.pow 10 e.toNat * d) n

/-- `n / d` divided by `10 ^ e`, rounded down. -/
def floorAt (e : Int) (n d : Nat) : Nat :=
  if e < 0 then n * Nat.pow 10 (-e).toNat / d else n / (d * Nat.pow 10 e.toNat)

/-- Whether `x * 10 ^ e` lies between `lo / d` and `hi / d`, ends included when `closed`. -/
def within (x : Nat) (e : Int) (lo hi d : Nat) (closed : Bool) : Bool :=
  match compareScaled x e lo d, compareScaled x e hi d with
  | .gt, .lt => true
  | .eq, _ | _, .eq => closed
  | _, _ => false

/-- Whether `x * 10 ^ e` is at least as near to `n / d` as `(x + 1) * 10 ^ e` is. -/
def lowerIsNearer (x : Nat) (e : Int) (n d : Nat) : Bool :=
  compareScaled (2 * x + 1) e (2 * n) d != .lt

/-- Tries the grids from `e` downward for a decimal between the bounds. -/
def search (n lo hi d : Nat) (closed : Bool) : Nat → Int → Decimal
  | 0, e => ⟨floorAt e n d, e⟩
  | fuel + 1, e =>
    let x := floorAt e n d
    let lower := x > 0 && within x e lo hi d closed
    let upper := within (x + 1) e lo hi d closed
    if lower && (!upper || lowerIsNearer x e n d) then ⟨x, e⟩
    else if upper then ⟨x + 1, e⟩
    else search n lo hi d closed fuel (e - 1)

/-- The shortest decimal that is nearer to `b` than to any other number, and of those the
nearest. -/
def shortest (b : Binary64) : Decimal :=
  if b.mantissa == 0 then ⟨0, 0⟩
  else
    -- Everything in quarters of the unit in the last place.
    let four := 4 * b.mantissa
    let gapBelow := if b.mantissa == Binary64.leadingBit && b.exponent > -1074 then 1 else 2
    let (scaleUp, d) : Nat × Nat :=
      if b.exponent < 0 then (1, 4 <<< (-b.exponent).toNat) else (1 <<< b.exponent.toNat, 4)
    let n := four * scaleUp
    let lo := (four - gapBelow) * scaleUp
    let hi := (four + 2) * scaleUp
    search n lo hi d (b.mantissa % 2 == 0) 800 310

/-- Removes zeros from the end of the digits. -/
def trim : Nat → Decimal → Decimal
  | 0, d => d
  | fuel + 1, d =>
    if d.digits > 0 && d.digits % 10 == 0 then trim fuel ⟨d.digits / 10, d.exponent + 1⟩ else d

/-- The decimal written without an exponent. -/
def positional (d : Decimal) : String :=
  let d := trim 400 d
  let digits := Nat.repr d.digits
  if d.exponent ≥ 0 then
    if d.digits == 0 then "0" else digits ++ String.ofList (List.replicate d.exponent.toNat '0')
  else
    let places := (-d.exponent).toNat
    let padded := String.ofList (List.replicate (places + 1 - digits.length) '0') ++ digits
    let whole := padded.toList.take (padded.length - places)
    let fraction := padded.toList.drop (padded.length - places)
    String.ofList whole ++ "." ++ String.ofList fraction

end Decimal

end LoopGuard
