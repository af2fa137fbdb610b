import LoopGuard.Registry.Limits
import LoopGuard.ResetOptions

/-!
# Loop counters

Model of `GuardRegistry` without its clock and its callback: a registry remembers for every loop key
when the loop was last reset, and answers whether a loop has run for too long. What a key was first
reset with stays its description until the key is removed.

The program keeps the entries in a hash map. Here they are a list without two entries of one key, in
the order of their first resets. No answer depends on that order: entries are looked up and removed
one by one, counted, or listed by key. The present time is an argument where the program reads its
clock, at most once in a call. `Session` adds the clock, the callbacks and the events.

Results:
* `Registry.get?_reset_self`, `Registry.get?_reset_of_ne`: what a reset changes.
* `Registry.length_remove`: how many counters a removal takes away.
-/

namespace LoopGuard

/-- `CounterEntry`: what is known of a loop that has been reset. -/
structure CounterEntry where
  key : String
  file : String
  line : Nat
  column : Nat
  lastReset : Instant
  deriving Repr, DecidableEq, Inhabited

namespace CounterEntry

/-- The entry of a key that is reset for the first time. -/
def first (o : ResetOptions) (now : Instant) : CounterEntry :=
  ⟨o.key, o.file, o.line, o.column, now⟩

/-- `CounterEntry.elapsed_at`: the time since the last reset, never negative. -/
def elapsed (e : CounterEntry) (now : Instant) : Duration := now.since e.lastReset

end CounterEntry

/-- Where tripped loops are reported to. `on_hit` and `forward_hits` set the same field, so there is
at most one of the two, the one set last. -/
inductive HitSink where
  /-- A callback, told by its name. -/
  | callback (name : String)
  /-- A channel, told by its number. -/
  | channel (id : Nat)
  deriving Repr, DecidableEq, Inhabited

/-- `GuardRegistry`: the counters of the loops of one execution context, with the limits that hold
for them. Keys are distinct. -/
structure Registry where
  counters : List CounterEntry := []
  threshold : Duration
  idleTtl : Option Duration
  sink : Option HitSink := none
  deriving Repr, DecidableEq, Inhabited

/-- The answer to a guard. The program answers an error, `false` or `true`; what `true` reports and
logs comes with it here. -/
inductive GuardAnswer where
  /-- The key has never been reset, or has been removed since. -/
  | unknownKey
  /-- The loop may go on. -/
  | within
  /-- The loop has run for too long. -/
  | tripped (entry : CounterEntry) (elapsed : Duration)
  deriving Repr, DecidableEq, Inhabited

/-- The message of `GuardError.UnknownKey`, with the key in its debug form. -/
def unknownKeyMessage (key : String) : String :=
  "guard called for unknown loop key " ++ Quoted.quoted key

namespace Registry

/-- `GuardRegistry.with_limits_and_clock`: a registry without counters and without a callback. -/
def withLimits (l : LoopLimits) : Registry := { threshold := l.threshold, idleTtl := l.idleTtl }

/-- `GuardRegistry.get`: the entry of a key. -/
def get? (r : Registry) (key : String) : Option CounterEntry := r.counters.find? (·.key == key)

/-- The counters after a reset. A known key gets a new time only, another one an entry of its
own. -/
def resetIn (o : ResetOptions) (now : Instant) : List CounterEntry → List CounterEntry
  | [] => [.first o now]
  | e :: rest =>
    if e.key == o.key then { e with lastReset := now } :: rest else e :: resetIn o now rest

/-- `GuardRegistry.reset`: a loop starts, or is entered again. -/
def reset (r : Registry) (o : ResetOptions) (now : Instant) : Registry :=
  { r with counters := resetIn o now r.counters }

/-- `GuardRegistry.guard`: whether the loop with a key has run for the threshold or longer since it
was last reset. -/
def guard (r : Registry) (key : String) (now : Instant) : GuardAnswer :=
  match r.get? key with
  | none => .unknownKey
  | some e =>
    if (e.elapsed now).nanoseconds < r.threshold.nanoseconds then .within
    else .tripped e (e.elapsed now)

/-- `GuardRegistry.len`: how many loops are known. -/
def length (r : Registry) : Nat := r.counters.length

/-- Forgets the entries that satisfy `p`; also answers how many they were, as the difference of the
two lengths. -/
def remove (r : Registry) (p : CounterEntry → Bool) : Registry × Nat :=
  let kept := r.counters.filter (!p ·)
  ({ r with counters := kept }, r.counters.length - kept.length)

/-- `GuardRegistry.clear`: forgets every entry, and keeps the limits and the callback. -/
def clear (r : Registry) : Registry := { r with counters := [] }

/-- `GuardRegistry.forget_file`: forgets the loops of a file, by the file of their first reset. -/
def forgetFile (r : Registry) (file : String) : Registry × Nat := r.remove (·.file == file)

/-- `GuardRegistry.sweep`: forgets the loops that have been idle for longer than they may, if
sweeping is on. A loop that has been idle for just as long as it may stays. -/
def sweep (r : Registry) (now : Instant) : Registry × Nat :=
  match r.idleTtl with
  | none => (r, 0)
  | some ttl => r.remove fun e => decide ((e.elapsed now).nanoseconds > ttl.nanoseconds)

/-- The entries in the order of their keys, in which a hash map has no order of its own. -/
def entries (r : Registry) : List CounterEntry := r.counters.mergeSort fun a b => !(b.key < a.key)

/-- The debug text of a registry: how many counters, the two limits, and whether hits are
reported. -/
def summary (r : Registry) : String :=
  "GuardRegistry \x7b counters: " ++ Nat.repr r.length ++ ", threshold: " ++ r.threshold.text
    ++ ", idle_ttl: "
    ++ (match r.idleTtl with
      | none => "None"
      | some d => "Some(" ++ d.text ++ ")")
    ++ ", on_hit: " ++ (if r.sink.isSome then "true" else "false") ++ " \x7d"

theorem find?_resetIn_self (o : ResetOptions) (now : Instant) (es : List CounterEntry) :
    (resetIn o now es).find? (·.key == o.key) =
      match es.find? (·.key == o.key) with
      | some e => some { e with lastReset := now }
      | none => some (.first o now) := by
  induction es with
  | nil => simp [resetIn, CounterEntry.first]
  | cons e rest ih =>
    by_cases h : e.key == o.key
    · simp [resetIn, h]
    · simp [resetIn, h, ih]

theorem find?_resetIn_of_ne {o : ResetOptions} {now : Instant} {key : String} (h : key ≠ o.key)
    (es : List CounterEntry) :
    (resetIn o now es).find? (·.key == key) = es.find? (·.key == key) := by
  induction es with
  | nil =>
    have : (o.key == key) = false := by simpa using fun he => h he.symm
    simp [resetIn, CounterEntry.first, this]
  | cons e rest ih =>
    by_cases he : e.key == o.key
    · have hk : (e.key == key) = false := by
        simp only [beq_iff_eq] at he
        simpa [he] using fun hc => h hc.symm
      simp [resetIn, he, hk]
    · simp only [resetIn, he, Bool.false_eq_true, if_false, List.find?_cons, ih]

theorem get?_reset_self (r : Registry) (o : ResetOptions) (now : Instant) :
    (r.reset o now).get? o.key =
      match r.get? o.key with
      | some e => some { e with lastReset := now }
      | none => some (.first o now) := find?_resetIn_self o now r.counters

theorem get?_reset_of_ne {r : Registry} {o : ResetOptions} {now : Instant} {key : String}
    (h : key ≠ o.key) : (r.reset o now).get? key = r.get? key := find?_resetIn_of_ne h r.counters

theorem length_remove (r : Registry) (p : CounterEntry → Bool) :
    (r.remove p).1.length + (r.remove p).2 = r.length := by
  have := List.length_filter_le (fun e => !p e) r.counters
  simp only [remove, length]
  omega

end Registry

end LoopGuard
