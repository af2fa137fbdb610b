import LoopGuard.Proofs.Registry.Replay

/-!
# Loops inside loops

A loop that runs has reset its key and guards it in every iteration, and in between other loops may
start and end, also the same loop once more if it is in a function that calls itself. But there is
one counter for a key: a loop that starts inside another one of its own key starts the time of both
anew.

So a guard trips once the threshold has passed since the loop was started and since every loop of
the same key was that started inside it. If none was, no loop outlives its budget.

Results:
* `Nested.exists_inside`: what has been called since a running loop was started.
* `Nested.guard_trips_iff`: when the guard of a running loop trips.
* `Nested.outlived`: a loop that outlives its budget.
-/

namespace LoopGuard

open History

/-- A loop that runs: what its key was reset with, when, and the calls before. -/
structure Activation where
  options : ResetOptions
  started : Instant
  before : History
  deriving Repr, DecidableEq, Inhabited

/-- The calls that loops make while they run, with the loops that still run after them, the
innermost one first. Loops end in the opposite order of that in which they start, and an iteration
of a loop starts when no loop runs inside it. -/
inductive Nested : List Activation → History → Prop
  | idle : Nested [] []
  | enter {running : List Activation} {run : History} (o : ResetOptions) (now : Instant) :
    Nested running run → Nested (⟨o, now, run⟩ :: running) (⟨now, .reset o⟩ :: run)
  | iterate {a : Activation} {running : List Activation} {run : History} (now : Instant) :
    Nested (a :: running) run → Nested (a :: running) (⟨now, .guard a.options.key⟩ :: run)
  | leave {a : Activation} {running : List Activation} {run : History} :
    Nested (a :: running) run → Nested running run

/-- Whether the clock never goes back. -/
def History.Forward (h : History) : Prop :=
  h.Pairwise fun later earlier => earlier.time.nanoseconds ≤ later.time.nanoseconds

/-! ## The latest reset -/

namespace History

variable {l : LoopLimits} {key : String} {t : Instant} {h : History}

theorem latest?_append (key : String) (after before : History) :
    latest? key (after ++ before) = (latest? key after).or (latest? key before) := by
  unfold latest?
  rw [List.find?_append, Option.map_or]

/-- What was called before a key was reset does not count for when it was reset last. -/
theorem latest?_append_reset {c : TimedCall} (hreset : (c.resetOf? key).isSome = true)
    (after before : History) :
    latest? key (after ++ c :: before) = latest? key (after ++ [c]) := by
  rw [latest?_append, latest?_append, latest?_cons, latest?_cons, if_pos hreset, if_pos hreset]

theorem exists_reset_of_latest? (ht : latest? key h = some t) :
    ∃ c ∈ h, (c.resetOf? key).isSome = true ∧ c.time = t := by
  obtain ⟨c, hc, rfl⟩ := Option.map_eq_some_iff.1 ht
  have hreset := List.find?_some hc
  exact ⟨c, List.mem_of_find?_eq_some hc, hreset, rfl⟩

/-- If the clock never goes back, no reset of a key is later than its latest one. -/
theorem time_le_latest? (hclock : h.Forward) (ht : latest? key h = some t) {c : TimedCall}
    (hc : c ∈ h) (hreset : (c.resetOf? key).isSome = true) :
    c.time.nanoseconds ≤ t.nanoseconds := by
  obtain ⟨last, hlast, rfl⟩ := Option.map_eq_some_iff.1 ht
  obtain ⟨-, after, before, rfl, hafter⟩ := List.find?_eq_some_iff_append.1 hlast
  rcases List.mem_append.1 hc with hc | hc
  · have hnot := hafter c hc
    rw [hreset] at hnot
    cases hnot
  · rcases List.mem_cons.1 hc with rfl | hc
    · exact Nat.le_refl _
    · have hbefore := (List.pairwise_append.1 hclock).2.1
      exact List.rel_of_pairwise_cons hbefore hc

/-- If the clock never goes back, so much time has passed since the latest reset of a key exactly if
it has since every one. -/
theorem le_since_latest?_iff (hclock : h.Forward) (ht : latest? key h = some t) (now : Instant)
    (d : Duration) :
    d.nanoseconds ≤ (now.since t).nanoseconds ↔
      ∀ c ∈ h, (c.resetOf? key).isSome = true →
        d.nanoseconds ≤ (now.since c.time).nanoseconds := by
  constructor
  · intro hle c hc hreset
    have hlast := time_le_latest? hclock ht hc hreset
    unfold Instant.since at hle ⊢
    dsimp only at hle ⊢
    omega
  · intro hall
    obtain ⟨c, hc, hreset, rfl⟩ := exists_reset_of_latest? ht
    exact hall c hc hreset

/-- Calls that forget nothing keep every key. -/
theorem kept_of_forgets {after : History} (h : ∀ c ∈ after, c.call.forgets = false)
    (before : History) : Kept l key after before := by
  induction after with
  | nil => trivial
  | cons c after ih =>
    rw [List.forall_mem_cons] at h
    refine ⟨?_, ih h.2⟩
    rintro ⟨o, -, hremoves⟩
    have hforgets := h.1
    unfold removes at hremoves
    cases hcall : c.call <;> simp [hcall, HostCall.forgets] at hremoves hforgets

theorem live_of_reset {c : TimedCall} (hreset : (c.resetOf? key).isSome = true) {after : History}
    (hafter : ∀ c ∈ after, c.call.forgets = false) (before : History) :
    Live l key (after ++ c :: before) :=
  ⟨after, c, before, rfl, hreset, kept_of_forgets hafter _⟩

theorem threshold_append {after : History} (h : ∀ c ∈ after, c.threshold? = none)
    (before : History) : threshold l (after ++ before) = threshold l before := by
  induction after with
  | nil => rfl
  | cons c after ih =>
    rw [List.forall_mem_cons] at h
    rw [List.cons_append, threshold_cons, h.1]
    exact ih h.2

end History

/-! ## Running loops -/

namespace Nested

variable {running : List Activation} {run : History} {a : Activation}

/-- Loops only reset and guard. -/
theorem calls (hn : Nested running run) :
    ∀ c ∈ run, c.call.forgets = false ∧ c.threshold? = none := by
  induction hn with
  | idle => exact nofun
  | enter o now _ ih => exact List.forall_mem_cons.2 ⟨⟨rfl, rfl⟩, ih⟩
  | iterate now _ ih => exact List.forall_mem_cons.2 ⟨⟨rfl, rfl⟩, ih⟩
  | leave _ ih => exact ih

/-- A loop that runs has been started, and the calls since then are those of loops inside it and its
own guards. -/
theorem exists_inside (hn : Nested running run) (ha : a ∈ running) :
    ∃ inside, run = inside ++ ⟨a.started, .reset a.options⟩ :: a.before := by
  induction hn with
  | idle => cases ha
  | enter o now hn ih =>
    rcases List.mem_cons.1 ha with rfl | ha
    · exact ⟨[], rfl⟩
    · obtain ⟨inside, rfl⟩ := ih ha
      exact ⟨⟨now, .reset o⟩ :: inside, rfl⟩
  | iterate now hn ih =>
    obtain ⟨inside, rfl⟩ := ih ha
    exact ⟨_ :: inside, rfl⟩
  | leave hn ih => exact ih (List.mem_cons_of_mem _ ha)

/-- The guard of a running loop trips exactly if the threshold has passed since the loop was started
and since every loop of the same key was that has been started inside it. -/
theorem guard_trips_iff {now : Instant} (l : LoopLimits) (earlier : History)
    (hn : Nested (a :: running) run)
    (hclock : Forward (⟨now, .guard a.options.key⟩ :: run)) :
    ∃ inside b, run = inside ++ ⟨a.started, .reset a.options⟩ :: a.before ∧
      answer l ⟨now, .guard a.options.key⟩ (run ++ earlier) = .flag b ∧
      (b = true ↔
        (threshold l earlier).nanoseconds ≤ (now.since a.started).nanoseconds ∧
        ∀ c ∈ inside, (c.resetOf? a.options.key).isSome = true →
          (threshold l earlier).nanoseconds ≤ (now.since c.time).nanoseconds) := by
  obtain ⟨inside, rfl⟩ := hn.exists_inside List.mem_cons_self
  have hcalls := hn.calls
  have hstart : (TimedCall.resetOf? ⟨a.started, .reset a.options⟩ a.options.key).isSome = true := by
    simp [TimedCall.resetOf?]
  have hthreshold := threshold_append (l := l) (fun c hc => (hcalls c hc).2) earlier
  have hlive := live_of_reset (l := l) hstart
    (fun c hc => (hcalls c (List.mem_append_left _ hc)).1) (a.before ++ earlier)
  rw [← List.cons_append, ← List.append_assoc] at hlive
  obtain ⟨t, ht⟩ := Option.isSome_iff_exists.1 (isSome_latest?_of_live hlive)
  refine ⟨inside, _, rfl, answer_guard_of_live hlive ht, ?_⟩
  rw [List.append_assoc, List.cons_append, latest?_append_reset hstart] at ht
  have hforward : Forward (inside ++ [⟨a.started, .reset a.options⟩]) := by
    refine List.Pairwise.sublist ?_ hclock.of_cons
    simp
  rw [decide_eq_true_iff, hthreshold, le_since_latest?_iff hforward ht, List.forall_mem_append,
    and_comm]
  simp [hstart]

/-- A loop in which another one starts after 0.05 seconds. -/
def twoLoops : History :=
  let o : ResetOptions := ⟨"a.js:1:0", "a.js", 1, 0⟩
  let o' : ResetOptions := ⟨"a.js:2:2", "a.js", 2, 2⟩
  [⟨⟨60000000⟩, .guard o'.key⟩, ⟨⟨50000000⟩, .reset o'⟩, ⟨⟨0⟩, .guard o.key⟩, ⟨⟨0⟩, .reset o⟩]

/-- With a threshold of 0.1 seconds the outer loop is stopped after 0.1 seconds. -/
theorem twoLoops_stopped : ∃ a running, Nested (a :: running) twoLoops ∧ a.started = ⟨0⟩ ∧
    Forward (⟨⟨100000000⟩, .guard a.options.key⟩ :: twoLoops) ∧
    answer ⟨100, 0⟩ ⟨⟨100000000⟩, .guard a.options.key⟩ (twoLoops ++ []) = .flag true := by
  have hnested : Nested [⟨⟨"a.js:1:0", "a.js", 1, 0⟩, ⟨0⟩, []⟩] twoLoops :=
    .leave (.iterate _ (.enter _ _ (.iterate _ (.enter _ _ .idle))))
  have hclock : Forward (⟨⟨100000000⟩, .guard "a.js:1:0"⟩ :: twoLoops) := by
    unfold Forward twoLoops
    decide
  obtain ⟨inside, b, hrun, hanswer, hb⟩ := guard_trips_iff ⟨100, 0⟩ [] hnested hclock
  have hresets : ∀ c ∈ twoLoops, (c.resetOf? "a.js:1:0").isSome = true →
      (threshold ⟨100, 0⟩ []).nanoseconds ≤ (Instant.since ⟨100000000⟩ c.time).nanoseconds := by
    unfold twoLoops
    decide
  have htrips : b = true := by
    refine hb.2 ⟨by decide, fun c hc => hresets c ?_⟩
    rw [hrun]
    exact List.mem_append_left _ hc
  rw [htrips] at hanswer
  exact ⟨_, _, hnested, rfl, hclock, hanswer⟩

/-- A loop that starts after 0.08 seconds inside a loop of its own key, with a threshold of 0.1
seconds. -/
def recursion : History :=
  let o : ResetOptions := ⟨"a.js:1:0", "a.js", 1, 0⟩
  [⟨⟨80000000⟩, .guard o.key⟩, ⟨⟨80000000⟩, .reset o⟩, ⟨⟨0⟩, .guard o.key⟩, ⟨⟨0⟩, .reset o⟩]

/-- After 0.1 seconds the outer loop goes on. -/
theorem outlived : ∃ a running, Nested (a :: running) recursion ∧
    Forward (⟨⟨100000000⟩, .guard a.options.key⟩ :: recursion) ∧
    (threshold ⟨100, 0⟩ []).nanoseconds ≤ (Instant.since ⟨100000000⟩ a.started).nanoseconds ∧
    answer ⟨100, 0⟩ ⟨⟨100000000⟩, .guard a.options.key⟩ recursion = .flag false := by
  refine ⟨⟨⟨"a.js:1:0", "a.js", 1, 0⟩, ⟨0⟩, []⟩, [], ?_, ?_, ?_, ?_⟩
  · exact .leave (.iterate _ (.enter _ _ (.iterate _ (.enter _ _ .idle))))
  · unfold Forward recursion
    decide
  · decide
  · decide

end Nested

end LoopGuard
