import LoopGuard.Json.Reader

/-!
# Reading numbers

How `serde_json` reads numbers. Those without a fraction and an exponent are read exactly as long as
they fit into 64 bits. All others become binary fractions: the leading digits that fit into 64 bits,
scaled by a power of ten, each step rounded on its own. The result need not be the fraction nearest
to the text, and is kept as `serde_json` finds it, since a message or a name of a source map can
show it.

A binary fraction is a `Binary64`, that is, an integer and a power of two, and its operations round
to 53 bits. A number that would be infinite is a fault.
-/

namespace LoopGuard

namespace Binary64

/-- The number as a ratio. -/
def ratio (b : Binary64) : Nat × Nat :=
  if b.exponent < 0 then (b.mantissa, 1 <<< (-b.exponent).toNat)
  else (b.mantissa <<< b.exponent.toNat, 1)

/-- The product, rounded. -/
def times (a b : Binary64) : Binary64 :=
  nearest (a.ratio.1 * b.ratio.1) (a.ratio.2 * b.ratio.2)

/-- The quotient, rounded. -/
def dividedBy (a b : Binary64) : Binary64 :=
  nearest (a.ratio.1 * b.ratio.2) (a.ratio.2 * b.ratio.1)

/-- The number nearest to a power of ten. -/
def powerOfTen (n : Nat) : Binary64 := nearest (Nat.pow 10 n) 1

/-- `b` scaled by `10 ^ exponent`, or nothing if that is too great. Where the scale is out of range,
`b` is divided in steps. -/
def scaleTen : Nat → Binary64 → Int → Option Binary64
  | 0, b, _ => some b
  | fuel + 1, b, exponent =>
    if exponent.natAbs ≤ 308 then
      if exponent < 0 then some (b.dividedBy (powerOfTen exponent.natAbs))
      else
        let scaled := b.times (powerOfTen exponent.natAbs)
        if scaled.isInfinite then none else some scaled
    else if b.mantissa == 0 then some b
    else if exponent ≥ 0 then none
    else scaleTen fuel (b.dividedBy (powerOfTen 308)) (exponent + 308)

end Binary64

namespace Json

namespace Reader

/-- The value of a decimal digit. -/
def digitValue (c : Char) : Nat := c.toNat - '0'.toNat

/-- The next character is a digit. -/
def atDigit : Reader Bool := return (← peek).any Char.isDigit

/-- Digits at the front, which stay. -/
def digitsAhead : Reader (List Char) := return (← get).rest.takeWhile Char.isDigit

/-- The longest start of the digits that keeps the number within 64 bits: the number, and what is
left. -/
def fitDigits : Nat → List Char → Nat × List Char
  | n, [] => (n, [])
  | n, c :: rest =>
    if n * 10 + digitValue c < UInt64.size then fitDigits (n * 10 + digitValue c) rest
    else (n, c :: rest)

/-- A binary fraction: the leading digits and a power of ten. -/
def scaled (isNegative : Bool) (digits : Nat) (exponent : Int) : Reader Number := do
  match Binary64.scaleTen 5 (Binary64.nearest digits 1) exponent with
  | some size => return .float isNegative size
  | none => failHere .numberOutOfRange

/-- The digits of an exponent as a number, or nothing if it does not fit into 32 bits: then what is
behind the digits that fit stays. -/
def exponentDigits : Nat → Nat → Reader (Option Nat)
  | 0, n => return some n
  | fuel + 1, n => do
    match ← peek with
    | some c =>
      if c.isDigit then
        drop
        if n * 10 + digitValue c < 0x80000000 then exponentDigits fuel (n * 10 + digitValue c)
        else return none
      else return some n
    | none => return some n

/-- An exponent and what it makes of the digits in front of it. -/
def exponentPart (isNegative : Bool) (digits : Nat) (exponent : Int) : Reader Number := do
  drop
  let isDown := (← peek) == some '-'
  if isDown || (← peek) == some '+' then drop
  match ← peek with
  | none => failHere .endInValue
  | some c =>
    if !c.isDigit then failNext .invalidNumber
    else
      match ← exponentDigits ((← get).rest.length + 1) 0 with
      | some n => scaled isNegative digits (exponent + if isDown then -(n : Int) else n)
      | none =>
        if digits != 0 && !isDown then failHere .numberOutOfRange
        else
          skipWhile Char.isDigit
          return .float isNegative ⟨0, -1074⟩

/-- What follows the digits of a binary fraction: an exponent or nothing. -/
def afterDigits (isNegative : Bool) (digits : Nat) (exponent : Int) : Reader Number := do
  let c ← peek
  if c == some 'e' || c == some 'E' then exponentPart isNegative digits exponent
  else scaled isNegative digits exponent

/-- A decimal point and the digits behind it. -/
def fractionPart (isNegative : Bool) (digits : Nat) (exponent : Int) : Reader Number := do
  drop
  let ahead ← digitsAhead
  if ahead.isEmpty then
    failNext (if (← peek).isNone then .endInValue else .invalidNumber)
  else
    let (all, left) := fitDigits digits ahead
    skipWhile Char.isDigit
    afterDigits isNegative all (exponent - (ahead.length - left.length : Nat))

/-- A number in front of which a minus sign has been taken if it is negative. -/
def number (isNegative : Bool) : Reader Number := do
  match ← peek with
  | none => failHere .endInValue
  | some c =>
    if !c.isDigit then failNext .invalidNumber
    else if c == '0' then
      drop
      if ← atDigit then failNext .invalidNumber else wholePart 0 0
    else
      let ahead ← digitsAhead
      let (n, left) := fitDigits 0 ahead
      skipWhile Char.isDigit
      wholePart n left.length
where
  /-- What follows the whole part, of which `dropped` digits were left out. -/
  wholePart (n dropped : Nat) : Reader Number := do
    let c ← peek
    if c == some '.' then fractionPart isNegative n dropped
    else if c == some 'e' || c == some 'E' then exponentPart isNegative n dropped
    else if dropped != 0 then scaled isNegative n dropped
    else if !isNegative then return .natural n
    else if n == 0 || n > 0x8000000000000000 then return .float true (Binary64.nearest n 1)
    else return .negative n

end Reader

end Json

end LoopGuard
