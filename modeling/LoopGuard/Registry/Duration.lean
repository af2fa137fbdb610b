/-!
# Durations and instants

Stretches of time and readings of a clock, in whole nanoseconds, with the operations that the
registry and its clocks use: the saturating difference of two readings (`elapsed_at`), the whole
milliseconds that are logged, and the text of a duration in the debug form of a registry. The time
between two readings is never negative: if the clock ran backwards it is zero.

Durations have no upper end here. In the program they end at 2 ^ 64 seconds, which no difference of
two readings and no number of milliseconds in 64 bits comes near.

Results:
* `Instant.since_eq_zero_iff`: when no time has passed.
* `Duration.of_nanoseconds`: the nanoseconds of seconds and nanoseconds.
-/

namespace LoopGuard

/-- A stretch of time. -/
structure Duration where
  nanoseconds : Nat
  deriving Repr, DecidableEq, Inhabited

namespace Duration

/-- So many milliseconds, as the limits give them. -/
def ofMillis (n : Nat) : Duration := ⟨n * 1000000⟩

/-- So many seconds and nanoseconds; a second and more of nanoseconds is carried. -/
def of (seconds nanoseconds : Nat) : Duration := ⟨seconds * 1000000000 + nanoseconds⟩

/-- The whole seconds. -/
def seconds (d : Duration) : Nat := d.nanoseconds / 1000000000

/-- The nanoseconds beyond the whole seconds. -/
def subsecond (d : Duration) : Nat := d.nanoseconds % 1000000000

/-- The whole milliseconds, kept to 64 bits: `elapsed_ms` in what `guard` logs. -/
def millis (d : Duration) : Nat := d.nanoseconds / 1000000 % UInt64.size

theorem of_nanoseconds (s n : Nat) : (of s n).nanoseconds = s * 1000000000 + n := rfl

/-- The digits of a fraction with so many places, filled up with zeros in front and without zeros at
the end. -/
def fractionDigits (places n : Nat) : List Char :=
  let digits := Nat.toDigits 10 n
  let padded := List.replicate (places - digits.length) '0' ++ digits
  (padded.reverse.dropWhile (· == '0')).reverse

/-- A whole number and a fraction with so many places; a fraction of zero has no point. -/
def decimalText (whole places fraction : Nat) : String :=
  let digits := fractionDigits places fraction
  Nat.repr whole ++ (if digits.isEmpty then "" else "." ++ String.ofList digits)

/-- The debug text of a duration, in the greatest unit of which it has a whole one: `500ms`, `1.5s`,
`60s`. -/
def text (d : Duration) : String :=
  if d.nanoseconds ≥ 1000000000 then decimalText d.seconds 9 d.subsecond ++ "s"
  else if d.nanoseconds ≥ 1000000 then
    decimalText (d.nanoseconds / 1000000) 6 (d.nanoseconds % 1000000) ++ "ms"
  else if d.nanoseconds ≥ 1000 then
    decimalText (d.nanoseconds / 1000) 3 (d.nanoseconds % 1000) ++ "µs"
  else Nat.repr d.nanoseconds ++ "ns"

end Duration

/-- A reading of a clock: the nanoseconds since the clock was made. -/
structure Instant where
  nanoseconds : Nat
  deriving Repr, DecidableEq, Inhabited

namespace Instant

/-- The time from `earlier` to `later`, which is none at all if the clock ran backwards. -/
def since (later earlier : Instant) : Duration := ⟨later.nanoseconds - earlier.nanoseconds⟩

theorem since_eq_zero_iff (later earlier : Instant) :
    (later.since earlier).nanoseconds = 0 ↔ later.nanoseconds ≤ earlier.nanoseconds := by
  simp [since, Nat.sub_eq_zero_iff_le]

end Instant

end LoopGuard
