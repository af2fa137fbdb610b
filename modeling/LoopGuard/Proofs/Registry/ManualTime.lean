import LoopGuard.Proofs.Registry.DurationWords
import LoopGuard.Proofs.Registry.Known
import Mathlib.Algebra.BigOperators.Group.List.Basic
import Mathlib.Data.List.Perm.Basic

/-!
# Loops on a manual clock

A manual clock counts nanoseconds in one word of 64 bits and starts again from zero behind its
range, while a threshold has words for seconds and for nanoseconds and may be far beyond that range.
A guard takes the difference of two readings of the clock, which is zero if the later one is not
greater, and compares it with the threshold word by word.

So the clock reads the sum of all moves up to the range of its word, in whatever order they were
made, and a guard is answered by the numbers of nanoseconds: it trips if the threshold, with all its
milliseconds and all that is carried, is at most the difference of the readings.

Results:
* `ClockCall.tells_session`: what a session shows of the words that were given to it.
* `ClockCall.toNat_reading`: what the clock reads.
* `ClockCall.get?_session_of_reset`: the time of the latest reset of a key.
* `ClockCall.guard_to_the_nanosecond`: what guards are answered.
-/

namespace LoopGuard

/-! ## What a call leaves -/

namespace Session

variable {s : Session} {key : String}

/-- A guard changes at most what waits in a channel. -/
theorem exists_receiver_guard (s : Session) (key : String) :
    ∃ receiver, (s.guard key).1 = { s with receiver } := by
  have hdeliver (e : CounterEntry) : ∃ receiver, (s.deliver e).1 = { s with receiver } := by
    unfold deliver
    split
    · exact ⟨_, rfl⟩
    · exact ⟨_, rfl⟩
    · split
      · split <;> exact ⟨_, rfl⟩
      · exact ⟨_, rfl⟩
  unfold guard
  split
  · exact ⟨_, rfl⟩
  · exact ⟨_, rfl⟩
  · exact hdeliver _

/-- A call that neither forgets nor resets a key leaves its counter. -/
theorem get?_step {c : HostCall} (hforgets : c.forgets = false)
    (hresets : ∀ o, c = .reset o → key ≠ o.key) :
    (s.step c).1.registry.get? key = s.registry.get? key := by
  cases c with
  | reset o => exact Registry.get?_reset_of_ne (hresets o rfl)
  | guard key' =>
    show (s.guard key').1.registry.get? key = s.registry.get? key
    rw [registry_guard]
  | clear | forgetFile | sweep => cases hforgets
  | receive =>
    simp only [step]
    split <;> rfl
  | _ => rfl

theorem get?_after {calls : List HostCall} (hforgets : ∀ c ∈ calls, c.forgets = false)
    (hresets : ∀ c ∈ calls, ∀ o, c = .reset o → key ≠ o.key) :
    (s.after calls).registry.get? key = s.registry.get? key := by
  induction calls generalizing s with
  | nil => rfl
  | cons c rest ih =>
    rw [List.forall_mem_cons] at hforgets hresets
    exact (ih hforgets.2 hresets.2).trans (get?_step hforgets.1 hresets.1)

theorem after_append (s : Session) (calls calls' : List HostCall) :
    s.after (calls ++ calls') = (s.after calls).after calls' := List.foldl_append

end Session

/-! ## Calls with times in words -/

/-- What a host does with a registry that reads a manual clock, with times in words. -/
inductive ClockCall where
  | advance (d : DurationWords)
  | reset (options : ResetOptions)
  | setThreshold (seconds : UInt64) (nanoseconds : UInt32)
      (fits : DurationWords.Fits seconds nanoseconds)
  | setThresholdMs (n : UInt64)
  | guard (key : String)

namespace ClockCall

/-- The call. -/
def call : ClockCall → HostCall
  | advance d => .advance d.duration
  | reset o => .reset o
  | setThreshold seconds nanoseconds _ => .setThreshold (.of seconds.toNat nanoseconds.toNat)
  | setThresholdMs n => .setThreshold (.ofMillis n.toNat)
  | guard key => .guard key

/-- By how much the call moves the clock, if it does. -/
def advance? : ClockCall → Option DurationWords
  | advance d => some d
  | _ => none

/-- The threshold that the call sets, if it sets one. -/
def threshold? : ClockCall → Option DurationWords
  | setThreshold seconds nanoseconds _ => some (.carrying seconds nanoseconds)
  | setThresholdMs n => some (.ofMillis n)
  | _ => none

/-- The nanoseconds of the threshold that the call sets, if it sets one. -/
def limit? : ClockCall → Option Nat
  | setThreshold seconds nanoseconds _ => some (seconds.toNat * 1000000000 + nanoseconds.toNat)
  | setThresholdMs n => some (n.toNat * 1000000)
  | _ => none

/-- Whether the call resets a key. -/
def resets (key : String) : ClockCall → Bool
  | reset o => o.key == key
  | _ => false

/-- The word that a clock reads after some calls: each move adds what it has in a word. -/
def reading (calls : List ClockCall) : UInt64 :=
  (calls.filterMap advance?).foldl (fun w d => w + d.word) 0

/-- The threshold after some calls: the one that was set last. -/
def threshold (thresholdMs : UInt64) (calls : List ClockCall) : DurationWords :=
  (calls.reverse.findSome? threshold?).getD (.ofMillis thresholdMs)

/-- The nanoseconds of the threshold after some calls. -/
def limit (thresholdMs : UInt64) (calls : List ClockCall) : Nat :=
  (calls.reverse.findSome? limit?).getD (thresholdMs.toNat * 1000000)

/-- A new registry with a manual clock after some calls, the earliest one first. -/
def session (thresholdMs idleTtlMs : UInt64) (calls : List ClockCall) : Session :=
  Session.after { registry := .withLimits ⟨thresholdMs.toNat, idleTtlMs.toNat⟩ } (calls.map call)

variable {thresholdMs idleTtlMs : UInt64} {calls : List ClockCall} {key : String}

theorem forgets_call (c : ClockCall) : c.call.forgets = false := by
  cases c <;> rfl

theorem ne_of_resets {c : ClockCall} (h : c.resets key = false) (o : ResetOptions)
    (hcall : c.call = .reset o) : key ≠ o.key := by
  cases c with
  | reset o' =>
    cases hcall
    exact fun hkey => (beq_eq_false_iff_ne.1 h) hkey.symm
  | _ => cases hcall

/-- The words of a threshold are the nanoseconds that were asked for. -/
theorem limit?_eq (c : ClockCall) : c.limit? = c.threshold?.map (·.duration.nanoseconds) := by
  cases c with
  | setThreshold seconds nanoseconds fits =>
    show _ = some (DurationWords.carrying seconds nanoseconds).duration.nanoseconds
    rw [DurationWords.duration_carrying fits]
    rfl
  | setThresholdMs n =>
    show _ = some (DurationWords.ofMillis n).duration.nanoseconds
    rw [DurationWords.duration_ofMillis]
    rfl
  | _ => rfl

theorem limit_eq (thresholdMs : UInt64) (calls : List ClockCall) :
    limit thresholdMs calls = (threshold thresholdMs calls).duration.nanoseconds := by
  have hlimit? : limit? = Option.map (·.duration.nanoseconds) ∘ threshold? := funext limit?_eq
  rw [limit, threshold, hlimit?, ← List.map_findSome?]
  cases calls.reverse.findSome? threshold? with
  | some d => rfl
  | none =>
    show _ = (DurationWords.ofMillis thresholdMs).duration.nanoseconds
    rw [DurationWords.duration_ofMillis]
    rfl

/-! ## What a session shows -/

theorem session_concat (thresholdMs idleTtlMs : UInt64) (calls : List ClockCall) (c : ClockCall) :
    session thresholdMs idleTtlMs (calls ++ [c]) =
      ((session thresholdMs idleTtlMs calls).step c.call).1 := by
  rw [session, List.map_append, Session.after_append]
  rfl

theorem session_append (thresholdMs idleTtlMs : UInt64) (before after : List ClockCall) :
    session thresholdMs idleTtlMs (before ++ after) =
      (session thresholdMs idleTtlMs before).after (after.map call) := by
  rw [session, List.map_append, Session.after_append]
  rfl

theorem reading_advance (calls : List ClockCall) (d : DurationWords) :
    reading (calls ++ [.advance d]) = reading calls + d.word := by
  simp [reading, advance?]

theorem reading_of_advance? (calls : List ClockCall) {c : ClockCall} (hc : c.advance? = none) :
    reading (calls ++ [c]) = reading calls := by
  simp [reading, hc]

theorem threshold_concat (thresholdMs : UInt64) (calls : List ClockCall) (c : ClockCall) :
    threshold thresholdMs (calls ++ [c]) = c.threshold?.getD (threshold thresholdMs calls) := by
  rw [threshold, List.reverse_concat, List.findSome?_cons]
  cases c.threshold? <;> rfl

/-- What a session shows of the words that were given to it. -/
structure Tells (thresholdMs : UInt64) (calls : List ClockCall) (s : Session) : Prop where
  readsClock : s.readsClock = true
  clock : s.clock.nanoseconds = (reading calls).toNat
  threshold : s.registry.threshold = (threshold thresholdMs calls).duration

namespace Tells

variable {s : Session}

/-- A call that moves the clock. -/
theorem withClock (h : Tells thresholdMs calls s) {d : DurationWords} {clock : ManualClock}
    (hclock : clock.nanoseconds = (reading calls + d.word).toNat) :
    Tells thresholdMs (calls ++ [.advance d]) { s with clock } where
  readsClock := h.readsClock
  clock := by
    rw [reading_advance]
    exact hclock
  threshold := by
    rw [threshold_concat]
    exact h.threshold

/-- A call that does not move the clock. -/
theorem step_of_advance? (h : Tells thresholdMs calls s) {c : ClockCall} (hc : c.advance? = none)
    {s' : Session} (hreads : s'.readsClock = s.readsClock) (hclock : s'.clock = s.clock)
    (hthreshold : s'.registry.threshold =
      (c.threshold?.map (·.duration)).getD s.registry.threshold) :
    Tells thresholdMs (calls ++ [c]) s' where
  readsClock := hreads.trans h.readsClock
  clock := by
    rw [reading_of_advance? calls hc, hclock]
    exact h.clock
  threshold := by
    rw [threshold_concat, hthreshold, h.threshold]
    cases c.threshold? <;> rfl

/-- Every call keeps a session and the words together. -/
theorem step (h : Tells thresholdMs calls s) (c : ClockCall) :
    Tells thresholdMs (calls ++ [c]) (s.step c.call).1 := by
  cases c with
  | advance d =>
    have hadd : (reading calls + d.word).toNat =
        ((reading calls).toNat + d.word.toNat) % UInt64.size := UInt64.toNat_add _ _
    have hmove : (s.clock.advance d.duration).nanoseconds = (reading calls + d.word).toNat := by
      rw [ManualClock.advance, hadd, h.clock, DurationWords.toNat_word, Nat.add_mod_mod]
    exact h.withClock hmove
  | reset o => exact h.step_of_advance? rfl rfl rfl rfl
  | setThreshold seconds nanoseconds fits =>
    refine h.step_of_advance? rfl rfl rfl ?_
    exact (DurationWords.duration_carrying fits).symm
  | setThresholdMs n =>
    refine h.step_of_advance? rfl rfl rfl ?_
    exact (DurationWords.duration_ofMillis n).symm
  | guard key =>
    obtain ⟨receiver, hguard⟩ := s.exists_receiver_guard key
    show Tells thresholdMs _ (s.guard key).1
    rw [hguard]
    exact h.step_of_advance? rfl rfl rfl rfl

end Tells

theorem tells_session (thresholdMs idleTtlMs : UInt64) (calls : List ClockCall) :
    Tells thresholdMs calls (session thresholdMs idleTtlMs calls) := by
  induction calls using List.reverseRecOn with
  | nil => exact ⟨rfl, rfl, (DurationWords.duration_ofMillis thresholdMs).symm⟩
  | append_singleton calls c ih =>
    rw [session_concat]
    exact ih.step c

theorem now_session (thresholdMs idleTtlMs : UInt64) (calls : List ClockCall) :
    (session thresholdMs idleTtlMs calls).now = ⟨(reading calls).toNat⟩ := by
  have h := tells_session thresholdMs idleTtlMs calls
  rw [Session.now, if_pos h.readsClock, ManualClock.now, h.clock]

/-- The clock reads the sum of all its moves, up to the range of its word. -/
theorem toNat_reading (calls : List ClockCall) :
    (reading calls).toNat =
      ((calls.filterMap advance?).map (·.duration.nanoseconds)).sum % UInt64.size := by
  have hfold (ds : List DurationWords) (w : UInt64) :
      (ds.foldl (fun w d => w + d.word) w).toNat =
        (w.toNat + (ds.map (·.duration.nanoseconds)).sum) % UInt64.size := by
    induction ds generalizing w with
    | nil => exact (Nat.mod_eq_of_lt w.toNat_lt_size).symm
    | cons d ds ih =>
      have hadd : (w + d.word).toNat = (w.toNat + d.word.toNat) % UInt64.size :=
        UInt64.toNat_add _ _
      rw [List.foldl_cons, ih, hadd, DurationWords.toNat_word, Nat.add_mod_mod, Nat.mod_add_mod,
        List.map_cons, List.sum_cons, Nat.add_assoc]
  have h := hfold (calls.filterMap advance?) 0
  rwa [UInt64.toNat_zero, Nat.zero_add] at h

/-! ## Counters -/

/-- What is known of a key depends on the calls up to its latest reset. -/
theorem get?_session_append (thresholdMs idleTtlMs : UInt64) (before : List ClockCall)
    {after : List ClockCall} (hafter : ∀ c ∈ after, c.resets key = false) :
    (session thresholdMs idleTtlMs (before ++ after)).registry.get? key =
      (session thresholdMs idleTtlMs before).registry.get? key := by
  rw [session_append]
  refine Session.get?_after ?_ ?_
  · intro c hc
    obtain ⟨c', -, rfl⟩ := List.mem_map.1 hc
    exact forgets_call c'
  · intro c hc
    obtain ⟨c', hc', rfl⟩ := List.mem_map.1 hc
    exact ne_of_resets (hafter c' hc')

theorem get?_session_of_not_reset (thresholdMs idleTtlMs : UInt64)
    (h : ∀ c ∈ calls, c.resets key = false) :
    (session thresholdMs idleTtlMs calls).registry.get? key = none :=
  get?_session_append thresholdMs idleTtlMs [] h

/-- A key that has been reset has a counter with the time of its latest reset. -/
theorem get?_session_of_reset (thresholdMs idleTtlMs : UInt64) (before : List ClockCall)
    (o : ResetOptions) {after : List ClockCall} (hafter : ∀ c ∈ after, c.resets o.key = false) :
    ∃ e, (session thresholdMs idleTtlMs (before ++ .reset o :: after)).registry.get? o.key =
        some e ∧
      e.lastReset = ⟨(reading before).toNat⟩ := by
  have hsplit : before ++ .reset o :: after = (before ++ [.reset o]) ++ after := by simp
  rw [hsplit, get?_session_append _ _ _ hafter, session_concat, ← now_session thresholdMs idleTtlMs]
  generalize session thresholdMs idleTtlMs before = s
  show ∃ e, (s.registry.reset o s.now).get? o.key = some e ∧ e.lastReset = s.now
  rw [Registry.get?_reset_self]
  split <;> exact ⟨_, rfl, rfl⟩

/-! ## Guards -/

/-- A guard compares the words of the time since the latest reset with those of the threshold. -/
theorem answer_guard_words (thresholdMs idleTtlMs : UInt64) (before : List ClockCall)
    (o : ResetOptions) {after : List ClockCall} (hafter : ∀ c ∈ after, c.resets o.key = false) :
    let calls := before ++ .reset o :: after
    ((session thresholdMs idleTtlMs calls).step (.guard o.key)).2.answer =
      .flag (!(DurationWords.between (reading calls) (reading before)).lt
        (threshold thresholdMs calls)) := by
  intro calls
  obtain ⟨e, he, hlast⟩ := get?_session_of_reset thresholdMs idleTtlMs before o hafter
  have htells := tells_session thresholdMs idleTtlMs calls
  have hnow := now_session thresholdMs idleTtlMs calls
  show (Session.guard _ o.key).2.answer = _
  rw [Session.answer_guard, he]
  show HostAnswer.flag (decide (_ ≤ (Instant.since _ e.lastReset).nanoseconds)) = _
  rw [htells.threshold, hlast, hnow, ← DurationWords.duration_between, HostAnswer.flag.injEq,
    Bool.eq_iff_iff, decide_eq_true_iff, Bool.not_eq_true', ← Bool.not_eq_true,
    DurationWords.lt_iff, Nat.not_lt]

/-- The answer to a guard by numbers of nanoseconds. -/
theorem answer_guard_eq_true_iff (thresholdMs idleTtlMs : UInt64) (before : List ClockCall)
    (o : ResetOptions) {after : List ClockCall} (hafter : ∀ c ∈ after, c.resets o.key = false) :
    let calls := before ++ .reset o :: after
    ((session thresholdMs idleTtlMs calls).step (.guard o.key)).2.answer = .flag true ↔
      limit thresholdMs calls ≤ (reading calls).toNat - (reading before).toNat := by
  intro calls
  rw [answer_guard_words _ _ before o hafter, HostAnswer.flag.injEq, Bool.not_eq_true',
    ← Bool.not_eq_true, DurationWords.lt_iff, Nat.not_lt, limit_eq, DurationWords.duration_between]
  rfl

/-- A threshold beyond the range of the clock never trips. -/
theorem answer_guard_of_beyond (thresholdMs idleTtlMs : UInt64) (before : List ClockCall)
    (o : ResetOptions) {after : List ClockCall} (hafter : ∀ c ∈ after, c.resets o.key = false)
    (hbeyond : UInt64.size ≤ limit thresholdMs (before ++ .reset o :: after)) :
    ((session thresholdMs idleTtlMs (before ++ .reset o :: after)).step (.guard o.key)).2.answer =
      .flag false := by
  have htrips := answer_guard_eq_true_iff thresholdMs idleTtlMs before o hafter
  have hwords := answer_guard_words thresholdMs idleTtlMs before o hafter
  dsimp only at htrips hwords
  have hlt := (reading (before ++ .reset o :: after)).toNat_lt_size
  rw [hwords] at htrips ⊢
  rw [HostAnswer.flag.injEq, Bool.eq_false_iff]
  intro htrue
  have hle := htrips.1 (congrArg HostAnswer.flag htrue)
  omega

/-- No time has passed for a clock that fell back behind the reset. -/
theorem answer_elapsed_of_back (thresholdMs idleTtlMs : UInt64) (before : List ClockCall)
    (o : ResetOptions) {after : List ClockCall} (hafter : ∀ c ∈ after, c.resets o.key = false)
    (hback : (reading (before ++ .reset o :: after)).toNat ≤ (reading before).toNat) :
    ((session thresholdMs idleTtlMs (before ++ .reset o :: after)).step (.elapsed o.key)).2.answer =
      .time (some ⟨0⟩) := by
  obtain ⟨e, he, hlast⟩ := get?_session_of_reset thresholdMs idleTtlMs before o hafter
  have hnow := now_session thresholdMs idleTtlMs (before ++ .reset o :: after)
  generalize session thresholdMs idleTtlMs (before ++ .reset o :: after) = s at he hnow
  show HostAnswer.time ((s.registry.get? o.key).map (·.elapsed s.now)) = _
  have hzero : (s.now.since e.lastReset).nanoseconds = 0 := by
    rw [Instant.since_eq_zero_iff, hlast, hnow]
    exact hback
  rw [he]
  exact congrArg (fun n => HostAnswer.time (some ⟨n⟩)) hzero

/-- A manual clock reads the sum of its moves modulo `2 ^ 64` nanoseconds, whatever their order. A
key that was never reset is unknown. The guard of another one trips exactly if the threshold that
was set last, to its nanosecond, is at most the difference of what the clock reads and what it read
at the latest reset of the key, and zero if that is negative; which is also what comparing words
tells. So no time has passed for a clock that fell back behind the reset, and a threshold beyond the
range of the clock never trips. -/
theorem guard_to_the_nanosecond (thresholdMs idleTtlMs : UInt64) (calls : List ClockCall) :
    let s := session thresholdMs idleTtlMs calls
    let now := s.now.nanoseconds
    let moves := (calls.filterMap advance?).map (·.duration.nanoseconds)
    now = moves.sum % UInt64.size ∧
    now = (moves.map (· % UInt64.size)).sum % UInt64.size ∧
    (∀ thresholdMs' idleTtlMs' calls',
      (calls'.filterMap advance?).Perm (calls.filterMap advance?) →
        (session thresholdMs' idleTtlMs' calls').now = s.now) ∧
    (∀ key, (∀ c ∈ calls, c.resets key = false) →
      (s.step (.guard key)).2.answer = .unknownKey key) ∧
    ∀ before o after, calls = before ++ .reset o :: after →
      (∀ c ∈ after, c.resets o.key = false) →
        let start := (session thresholdMs idleTtlMs before).now.nanoseconds
        ((s.step (.guard o.key)).2.answer = .flag true ↔
          (limit thresholdMs calls : ℤ) ≤ max 0 ((now : ℤ) - start)) ∧
        (s.step (.guard o.key)).2.answer =
          .flag (!(DurationWords.between (reading calls) (reading before)).lt
            (threshold thresholdMs calls)) ∧
        (now ≤ start → (s.step (.elapsed o.key)).2.answer = .time (some ⟨0⟩)) ∧
        (UInt64.size ≤ limit thresholdMs calls →
          (s.step (.guard o.key)).2.answer = .flag false) := by
  intro s now moves
  have hnow : now = (reading calls).toNat :=
    congrArg Instant.nanoseconds (now_session thresholdMs idleTtlMs calls)
  have hreading : (reading calls).toNat = moves.sum % UInt64.size := toNat_reading calls
  refine ⟨hnow.trans hreading, ?_, ?_, ?_, ?_⟩
  · rw [hnow, hreading, List.sum_nat_mod]
  · intro thresholdMs' idleTtlMs' calls' hperm
    -- A reading depends on the sum of the moves alone, which another order does not change.
    have hmoves := (hperm.map (·.duration.nanoseconds)).sum_eq
    have hs : s.now = ⟨(reading calls).toNat⟩ := now_session thresholdMs idleTtlMs calls
    rw [hs, now_session, toNat_reading calls', toNat_reading calls, hmoves]
  · intro key hnever
    show (Session.guard s key).2.answer = _
    rw [Session.answer_guard, get?_session_of_not_reset _ _ hnever]
  · rintro before o after rfl hafter start
    have hstart : start = (reading before).toNat :=
      congrArg Instant.nanoseconds (now_session thresholdMs idleTtlMs before)
    have htrips := answer_guard_eq_true_iff thresholdMs idleTtlMs before o hafter
    dsimp only at htrips
    rw [← hnow, ← hstart] at htrips
    refine ⟨?_, answer_guard_words thresholdMs idleTtlMs before o hafter, ?_,
      answer_guard_of_beyond thresholdMs idleTtlMs before o hafter⟩
    · rw [htrips]
      omega
    · intro hback
      rw [hnow, hstart] at hback
      exact answer_elapsed_of_back thresholdMs idleTtlMs before o hafter hback

/-- A loop that is started five nanoseconds before the clock starts again from zero, with a
threshold of `2 ^ 64` nanoseconds, one second of which is carried. Then the clock is moved by
ten. -/
def wrapped : List ClockCall :=
  [.advance ⟨18446744073, 709551611, by decide⟩, .reset ⟨"a.js:1:0", "a.js", 1, 0⟩,
    .setThreshold 18446744072 1709551616 (by decide), .advance ⟨0, 10, by decide⟩]

/-- The loop is started once more, and runs for one second with a threshold of one second. -/
def restarted : List ClockCall :=
  wrapped ++ .reset ⟨"a.js:1:0", "a.js", 1, 0⟩ :: [.setThresholdMs 1000, .advance ⟨1, 0, by decide⟩]

/-- For the clock no time has passed, and nothing reaches the threshold; after the second start the
loop is stopped. The same moves in another order come to the same reading. -/
theorem wrapped_goes_on :
    (session 500 0 wrapped).now = ⟨5⟩ ∧
    (session 7 7 wrapped.reverse).now = (session 500 0 wrapped).now ∧
    ((session 500 0 wrapped).step (.guard "b.js:1:0")).2.answer = .unknownKey "b.js:1:0" ∧
    ((session 500 0 wrapped).step (.elapsed "a.js:1:0")).2.answer = .time (some ⟨0⟩) ∧
    ((session 500 0 wrapped).step (.guard "a.js:1:0")).2.answer = .flag false ∧
    ((session 500 0 restarted).step (.guard "a.js:1:0")).2.answer = .flag true := by
  have hnow : (session 500 0 wrapped).now = ⟨5⟩ := by
    rw [now_session, toNat_reading]
    decide
  have hstart : (session 500 0 (wrapped.take 1)).now = ⟨18446744073709551611⟩ := by
    rw [now_session, toNat_reading]
    decide
  obtain ⟨-, -, horder, hunknown, hguards⟩ := guard_to_the_nanosecond 500 0 wrapped
  obtain ⟨-, -, hzero, hnever⟩ := hguards (wrapped.take 1) _ (wrapped.drop 2) rfl (by decide)
  obtain ⟨-, -, -, -, hguards'⟩ := guard_to_the_nanosecond 500 0 restarted
  obtain ⟨htrips, -⟩ := hguards' wrapped _ [.setThresholdMs 1000, .advance ⟨1, 0, by decide⟩] rfl
    (by decide)
  refine ⟨hnow, horder 7 7 wrapped.reverse ?_, hunknown "b.js:1:0" (by decide), hzero ?_,
    hnever (by decide), htrips.2 ?_⟩
  · rw [List.filterMap_reverse]
    exact List.reverse_perm _
  · rw [hnow, hstart]
    decide
  · have hlater : (session 500 0 restarted).now = ⟨1000000005⟩ := by
      rw [now_session, toNat_reading]
      decide
    rw [hnow, hlater]
    decide

end ClockCall

end LoopGuard
