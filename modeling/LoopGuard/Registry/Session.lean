import LoopGuard.Registry.Clock
import LoopGuard.Registry.Counters

/-!
# Sessions

A `GuardRegistry` in the hands of a host: a clock that the host moves, named callbacks, and the
receiving end of the channel that tripped loops were last forwarded to. A session goes on step by
step, a step being one call of the host, and every step tells its answer, the callbacks that were
called, and the events that were logged.

A callback gets a reference to the entry and can change neither the registry nor the answer, so it
is modelled by its name and what it is told. A channel of `forward_hits` is unbounded: sending fails
only if its receiving end has been dropped, and the program ignores that. The host of a session
keeps one receiving end, that of the channel made last, and drops an older one when it makes
another. Callbacks that panic are left out.
-/

namespace LoopGuard

/-- What a registry logs: a warning from `guard`, and what `forget_file` and `sweep` have
removed. -/
inductive RegistryEvent where
  /-- A loop has run for too long: by so many milliseconds since it was last reset. -/
  | overBudget (entry : CounterEntry) (elapsedMs : Nat)
  /-- So many entries of a file were forgotten, even if there were none. -/
  | forgot (file : String) (removed : Nat)
  /-- Some entries were swept away, and so many remain. -/
  | swept (removed remaining : Nat)
  deriving Repr, DecidableEq, Inhabited

/-- What a host does with a registry, or with the clock and the channel it shares with it. -/
inductive HostCall where
  | reset (options : ResetOptions)
  | guard (key : String)
  | get (key : String)
  | elapsed (key : String)
  | advance (d : Duration)
  | setThreshold (threshold : Duration)
  | threshold
  | isEmpty
  | clear
  | forgetFile (file : String)
  | sweep
  | summary
  /-- Names the callback that is called from now on. -/
  | onHit (name : String)
  /-- Makes a channel that gets the hits from now on, and keeps its receiving end. -/
  | forwardHits
  /-- Takes what waits in the channel. -/
  | receive
  | dropReceiver
  deriving Repr, DecidableEq, Inhabited

/-- The answer to a step. -/
inductive HostAnswer where
  | nothing
  | flag (b : Bool)
  | count (n : Nat)
  | time (d : Option Duration)
  | text (s : String)
  | entry (e : Option CounterEntry)
  | entries (es : List CounterEntry)
  | unknownKey (key : String)
  deriving Repr, DecidableEq, Inhabited

/-- The receiving end of a channel. -/
structure Receiver where
  channel : Nat
  waiting : List CounterEntry
  deriving Repr, DecidableEq, Inhabited

/-- A registry in the hands of a host. -/
structure Session where
  registry : Registry
  clock : ManualClock := {}
  /-- The registry reads the clock; else all its readings are equal. -/
  readsClock : Bool := true
  /-- How many channels have been made. -/
  channels : Nat := 0
  receiver : Option Receiver := none
  deriving Repr, DecidableEq, Inhabited

/-- What a step shows. -/
structure HostOutcome where
  answer : HostAnswer
  /-- The callbacks that were called, with what they were told. -/
  hits : List (String × CounterEntry) := []
  events : List RegistryEvent := []
  deriving Repr, DecidableEq, Inhabited

namespace Session

/-- What the registry takes for the present time. Without the manual clock no time passes; such
sessions are asked only what does not depend on it. -/
def now (s : Session) : Instant := if s.readsClock then s.clock.now else ⟨0⟩

/-- Tells of a tripped loop, as `guard` does through its callback: the callback that is told of it,
and the session, in whose channel it may wait now. A channel whose receiving end is gone takes
nothing. -/
def deliver (s : Session) (e : CounterEntry) : Session × List (String × CounterEntry) :=
  match s.registry.sink with
  | none => (s, [])
  | some (.callback name) => (s, [(name, e)])
  | some (.channel id) =>
    match s.receiver with
    | some r =>
      if r.channel = id then
        ({ s with receiver := some { r with waiting := r.waiting ++ [e] } }, [])
      else (s, [])
    | none => (s, [])

/-- Asks whether a loop may go on: `GuardRegistry.guard` with its warning and its callback, in that
order, for a loop that has run for too long. -/
def guard (s : Session) (key : String) : Session × HostOutcome :=
  match s.registry.guard key s.now with
  | .unknownKey => (s, { answer := .unknownKey key })
  | .within => (s, { answer := .flag false })
  | .tripped e elapsed =>
    let (s, hits) := s.deliver e
    (s, { answer := .flag true, hits, events := [.overBudget e elapsed.millis] })

/-- The session with another registry. -/
def withRegistry (s : Session) (r : Registry) : Session := { s with registry := r }

/-- Goes on by a step: one call of the host, with its answer and all that it sets off. -/
def step (s : Session) : HostCall → Session × HostOutcome
  | .reset o => (s.withRegistry (s.registry.reset o s.now), { answer := .nothing })
  | .guard key => s.guard key
  | .get key => (s, { answer := .entry (s.registry.get? key) })
  | .elapsed key =>
    (s, { answer := .time ((s.registry.get? key).map (·.elapsed s.now)) })
  | .advance d =>
    let clock := s.clock.advance d
    ({ s with clock }, { answer := .time (some ⟨clock.nanoseconds⟩) })
  | .setThreshold d =>
    (s.withRegistry { s.registry with threshold := d }, { answer := .time (some d) })
  | .threshold => (s, { answer := .time (some s.registry.threshold) })
  | .isEmpty => (s, { answer := .flag (s.registry.length == 0) })
  | .clear => (s.withRegistry s.registry.clear, { answer := .nothing })
  | .forgetFile file =>
    let (r, removed) := s.registry.forgetFile file
    (s.withRegistry r, { answer := .count removed, events := [.forgot file removed] })
  | .sweep =>
    let (r, removed) := s.registry.sweep s.now
    (s.withRegistry r,
      { answer := .count removed, events := if removed > 0 then [.swept removed r.length] else [] })
  | .summary => (s, { answer := .text s.registry.summary })
  | .onHit name =>
    (s.withRegistry { s.registry with sink := some (.callback name) }, { answer := .nothing })
  | .forwardHits =>
    ({ s with
        registry := { s.registry with sink := some (.channel s.channels) }
        channels := s.channels + 1
        receiver := some ⟨s.channels, []⟩ }, { answer := .nothing })
  | .receive =>
    match s.receiver with
    | none => (s, { answer := .entries [] })
    | some r =>
      ({ s with receiver := some { r with waiting := [] } }, { answer := .entries r.waiting })
  | .dropReceiver => ({ s with receiver := none }, { answer := .nothing })

end Session

end LoopGuard
