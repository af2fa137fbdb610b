import LoopGuard.Registry.Duration

/-!
# A clock moved by hand

Model of `ManualClock`, the clock for tests: it counts nanoseconds in 64 bits and moves only when it
is told to. The count is an atomic number that is added to, so beyond its range it starts again from
zero, and a clock can go backwards. All clones of a clock share one count; here it belongs to the
session that holds the clock. The system clock is not modelled: a `Session` that does not read the
manual clock stands still.

Results:
* `ManualClock.advance_advance`: two moves in a row are one move by the sum.
-/

namespace LoopGuard

/-- `ManualClock`: a clock that is moved by hand, as the nanoseconds since it was made. -/
structure ManualClock where
  nanoseconds : Nat := 0
  deriving Repr, DecidableEq, Inhabited

namespace ManualClock

/-- `ManualClock.advance`: moves the clock forward. A duration is cut to 64 bits and the sum wraps,
which together is the sum modulo 2 ^ 64. -/
def advance (c : ManualClock) (d : Duration) : ManualClock :=
  ⟨(c.nanoseconds + d.nanoseconds) % UInt64.size⟩

/-- What the clock reads. -/
def now (c : ManualClock) : Instant := ⟨c.nanoseconds⟩

theorem advance_advance (c : ManualClock) (a b : Duration) :
    (c.advance a).advance b = c.advance ⟨a.nanoseconds + b.nanoseconds⟩ := by
  simp only [advance, ManualClock.mk.injEq, UInt64.size]
  omega

end ManualClock

end LoopGuard
