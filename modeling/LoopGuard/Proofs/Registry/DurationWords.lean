import LoopGuard.Registry.Duration
import Mathlib.Data.UInt

/-!
# Durations in words

A duration is kept in two words: 64 bits of whole seconds, and 32 bits for the nanoseconds beyond
them, of which there are less than a second's. Two durations are compared by their seconds first.

All the same a duration is its number of nanoseconds. No number of milliseconds that fits in 64 bits
is too great for the two words, nanoseconds of a second and more are carried to the seconds, and the
order by words is the order of the numbers. Only a clock that counts nanoseconds in 64 bits keeps
less of a duration than the whole.

Results:
* `DurationWords.duration_ofMillis`, `DurationWords.duration_carrying`,
  `DurationWords.duration_between`: the words for milliseconds, for seconds and nanoseconds, and for
  the time between two readings of a clock.
* `DurationWords.lt_iff`: the order by words.
* `DurationWords.toNat_word`: what a clock keeps of a duration.
-/

namespace LoopGuard

/-- A duration as it is kept in words: whole seconds, and the nanoseconds beyond them. -/
structure DurationWords where
  seconds : UInt64
  subsecond : UInt32
  subsecond_lt : subsecond.toNat < 1000000000 := by decide
  deriving Repr, DecidableEq

namespace DurationWords

/-- The duration that is kept. -/
def duration (d : DurationWords) : Duration := .of d.seconds.toNat d.subsecond.toNat

/-! ## The order by words -/

/-- Whether a duration is shorter than another one: by the seconds first. -/
def lt (a b : DurationWords) : Bool :=
  decide (a.seconds < b.seconds) || (a.seconds == b.seconds && decide (a.subsecond < b.subsecond))

theorem lt_iff (a b : DurationWords) :
    a.lt b = true ↔ a.duration.nanoseconds < b.duration.nanoseconds := by
  have ha := a.subsecond_lt
  have hb := b.subsecond_lt
  have hseconds : a.seconds = b.seconds ↔ a.seconds.toNat = b.seconds.toNat := UInt64.toNat_inj.symm
  rw [duration, duration, Duration.of_nanoseconds, Duration.of_nanoseconds, lt, Bool.or_eq_true,
    Bool.and_eq_true, decide_eq_true_iff, decide_eq_true_iff, beq_iff_eq, hseconds,
    UInt64.lt_iff_toNat_lt, UInt32.lt_iff_toNat_lt]
  omega

/-! ## Milliseconds -/

/-- The nanoseconds of less than a second of milliseconds fit in their word. -/
theorem toNat_millis (n : UInt64) :
    ((n % 1000).toUInt32 * 1000000).toNat = n.toNat % 1000 * 1000000 := by
  have hlt : n.toNat % 1000 < 1000 := Nat.mod_lt _ (by decide)
  have hword : (n % 1000).toUInt32.toNat = n.toNat % 1000 := by
    rw [UInt64.toNat_toUInt32, UInt64.toNat_mod]
    exact Nat.mod_eq_of_lt (Nat.lt_trans hlt (by decide))
  have hfits : n.toNat % 1000 * 1000000 < 2 ^ 32 := by omega
  rw [UInt32.toNat_mul, hword]
  exact Nat.mod_eq_of_lt hfits

/-- So many milliseconds. -/
def ofMillis (n : UInt64) : DurationWords where
  seconds := n / 1000
  subsecond := (n % 1000).toUInt32 * 1000000
  subsecond_lt := by
    rw [toNat_millis]
    omega

theorem duration_ofMillis (n : UInt64) : (ofMillis n).duration = .ofMillis n.toNat := by
  have hseconds : (ofMillis n).seconds.toNat = n.toNat / 1000 := UInt64.toNat_div n 1000
  have hsubsecond : (ofMillis n).subsecond.toNat = n.toNat % 1000 * 1000000 := toNat_millis n
  rw [duration, hseconds, hsubsecond, Duration.of, Duration.ofMillis, Duration.mk.injEq]
  omega

/-! ## Seconds and nanoseconds -/

/-- Whether so many seconds and nanoseconds make a duration. -/
def Fits (seconds : UInt64) (nanoseconds : UInt32) : Prop :=
  seconds.toNat + nanoseconds.toNat / 1000000000 < UInt64.size

instance (seconds : UInt64) (nanoseconds : UInt32) : Decidable (Fits seconds nanoseconds) :=
  inferInstanceAs (Decidable (_ < _))

/-- So many seconds and nanoseconds; a second and more of nanoseconds is carried. -/
def carrying (seconds : UInt64) (nanoseconds : UInt32) : DurationWords where
  seconds := seconds + (nanoseconds / 1000000000).toUInt64
  subsecond := nanoseconds % 1000000000
  subsecond_lt := by
    rw [UInt32.toNat_mod]
    exact Nat.mod_lt _ (by decide)

theorem duration_carrying {seconds : UInt64} {nanoseconds : UInt32}
    (h : Fits seconds nanoseconds) :
    (carrying seconds nanoseconds).duration = .of seconds.toNat nanoseconds.toNat := by
  have hcarried : (carrying seconds nanoseconds).seconds.toNat =
      seconds.toNat + nanoseconds.toNat / 1000000000 := by
    show (seconds + (nanoseconds / 1000000000).toUInt64).toNat = _
    rw [UInt64.toNat_add, UInt32.toNat_toUInt64, UInt32.toNat_div]
    exact Nat.mod_eq_of_lt h
  have hsubsecond : (carrying seconds nanoseconds).subsecond.toNat =
      nanoseconds.toNat % 1000000000 := UInt32.toNat_mod _ _
  rw [duration, hcarried, hsubsecond, Duration.of, Duration.of, Duration.mk.injEq]
  omega

/-! ## Readings of a clock -/

/-- The nanoseconds of a duration, as far as they fit in 64 bits. -/
def word (d : DurationWords) : UInt64 := .ofNat d.duration.nanoseconds

theorem toNat_word (d : DurationWords) : d.word.toNat = d.duration.nanoseconds % UInt64.size :=
  UInt64.toNat_ofNat'

/-- So many nanoseconds. -/
def ofNanos (n : UInt64) : DurationWords := carrying (n / 1000000000) (n % 1000000000).toUInt32

theorem duration_ofNanos (n : UInt64) : (ofNanos n).duration = ⟨n.toNat⟩ := by
  have hlt : n.toNat % 1000000000 < 1000000000 := Nat.mod_lt _ (by decide)
  have hseconds : (n / 1000000000).toNat = n.toNat / 1000000000 := UInt64.toNat_div _ _
  have hrest : (n % 1000000000).toUInt32.toNat = n.toNat % 1000000000 := by
    rw [UInt64.toNat_toUInt32, UInt64.toNat_mod]
    exact Nat.mod_eq_of_lt (Nat.lt_trans hlt (by decide))
  have hfits : Fits (n / 1000000000) (n % 1000000000).toUInt32 := by
    have hn : n.toNat < UInt64.size := n.toNat_lt_size
    rw [Fits, hseconds, hrest]
    omega
  rw [ofNanos, duration_carrying hfits, hseconds, hrest, Duration.of, Duration.mk.injEq]
  omega

/-- The time between two readings of a clock, none if the later one is not greater. -/
def between (later earlier : UInt64) : DurationWords :=
  ofNanos (if earlier < later then later - earlier else 0)

theorem duration_between (later earlier : UInt64) :
    (between later earlier).duration = Instant.since ⟨later.toNat⟩ ⟨earlier.toNat⟩ := by
  rw [between, duration_ofNanos, Instant.since, Duration.mk.injEq]
  by_cases h : earlier < later
  · rw [if_pos h]
    exact UInt64.toNat_sub_of_le _ _ (UInt64.le_of_lt h)
  · have hle : later.toNat ≤ earlier.toNat := UInt64.le_iff_toNat_le.1 (UInt64.not_lt.1 h)
    rw [if_neg h]
    exact (Nat.sub_eq_zero_of_le hle).symm

end DurationWords

end LoopGuard
