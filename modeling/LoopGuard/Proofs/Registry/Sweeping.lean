import LoopGuard.Proofs.Registry.Replay

/-!
# Sweeping while loops run

A sweep looks at how long ago a key was reset, and so does a guard, but a guard compares that with
the threshold and a sweep with the idle time that the limits allow. A loop that may go on is swept
away exactly if it has been idle for longer than that, which takes limits by which it may be idle
for less long than it may run.

Results:
* `History.live_sweep_iff`: which keys a sweep leaves.
* `History.answer_guard_sweep`: what a guard is answered after a sweep.
* `History.guard_after_sweep`: which loops within their budget a sweep interrupts.
-/

namespace LoopGuard

namespace History

variable {l : LoopLimits} {key : String} {now : Instant} {h : History}

theorem live_sweep_iff :
    Live l key (⟨now, .sweep⟩ :: h) ↔ Live l key h ∧ overdue l key now h = false := by
  have hcons : Live l key (⟨now, .sweep⟩ :: h) ↔
      (TimedCall.resetOf? ⟨now, .sweep⟩ key).isSome = true ∨
        Live l key h ∧ ¬ Removes l key ⟨now, .sweep⟩ h := since_cons
  have hreset : ¬ (TimedCall.resetOf? ⟨now, .sweep⟩ key).isSome = true := Bool.false_ne_true
  rw [hcons, removes_sweep_iff, ← overdue_iff, ← Bool.not_eq_true]
  tauto

/-- A loop that may go on is live, and the threshold is greater than the time since its latest
reset. -/
theorem of_answer_guard_within (hwithin : answer l ⟨now, .guard key⟩ h = .flag false) :
    Live l key h ∧ ∃ t, latest? key h = some t ∧
      (now.since t).nanoseconds < (threshold l h).nanoseconds := by
  by_cases hlive : Live l key h
  · obtain ⟨t, ht⟩ := Option.isSome_iff_exists.1 (isSome_latest?_of_live hlive)
    rw [answer_guard_of_live hlive ht, HostAnswer.flag.injEq, decide_eq_false_iff_not] at hwithin
    exact ⟨hlive, t, ht, Nat.lt_of_not_le hwithin⟩
  · rw [answer_guard_of_not_live hlive] at hwithin
    cases hwithin

/-- A sweep makes overdue keys unknown, and changes nothing for the guards of the others. -/
theorem answer_guard_sweep (l : LoopLimits) (key : String) (now : Instant) (h : History) :
    answer l ⟨now, .guard key⟩ (⟨now, .sweep⟩ :: h) =
      if overdue l key now h then .unknownKey key else answer l ⟨now, .guard key⟩ h := by
  cases hover : overdue l key now h with
  | true =>
    refine answer_guard_of_not_live fun hlive => ?_
    rw [live_sweep_iff, hover] at hlive
    cases hlive.2
  | false =>
    rw [if_neg Bool.false_ne_true]
    by_cases hlive : Live l key h
    · obtain ⟨t, ht⟩ := Option.isSome_iff_exists.1 (isSome_latest?_of_live hlive)
      rw [answer_guard_of_live hlive ht, answer_guard_of_live (live_sweep_iff.2 ⟨hlive, hover⟩) ht]
      rfl
    · have hlive' : ¬ Live l key (⟨now, .sweep⟩ :: h) := fun h' => hlive (live_sweep_iff.1 h').1
      rw [answer_guard_of_not_live hlive, answer_guard_of_not_live hlive']

/-- A loop that may go on may still go on after a sweep, unless sweeping is on and the loop was
reset last longer ago than the limits allow: then, and only then, its key is unknown. Without
sweeping, or if the threshold is not above the idle time that the limits allow, no loop is
interrupted. -/
theorem guard_after_sweep (l : LoopLimits) (key : String) (now : Instant) (h : History)
    (hwithin : answer l ⟨now, .guard key⟩ h = .flag false) :
    (answer l ⟨now, .guard key⟩ (⟨now, .sweep⟩ :: h) = .flag false ↔
      ¬ ∃ ttl t, l.idleTtl = some ttl ∧ latest? key h = some t ∧
        ttl.nanoseconds < (now.since t).nanoseconds) ∧
    (answer l ⟨now, .guard key⟩ (⟨now, .sweep⟩ :: h) = .unknownKey key ↔
      ∃ ttl t, l.idleTtl = some ttl ∧ latest? key h = some t ∧
        ttl.nanoseconds < (now.since t).nanoseconds) ∧
    ((∀ ttl, l.idleTtl = some ttl → (threshold l h).nanoseconds ≤ ttl.nanoseconds) →
      answer l ⟨now, .guard key⟩ (⟨now, .sweep⟩ :: h) = .flag false) := by
  obtain ⟨-, t, ht, hlt⟩ := of_answer_guard_within hwithin
  rw [← overdue_iff, answer_guard_sweep, hwithin]
  refine ⟨?_, ?_, fun hlimits => ?_⟩
  · cases overdue l key now h <;> simp
  · cases overdue l key now h <;> simp
  · have hover : overdue l key now h = false := by
      rw [← Bool.not_eq_true, overdue_iff]
      rintro ⟨ttl, t', httl, ht', hidle⟩
      rw [ht, Option.some.injEq] at ht'
      subst ht'
      have := hlimits ttl httl
      omega
    rw [hover]
    rfl

/-- A loop whose threshold was raised to 30 seconds while it ran, next to one that was left long
ago, with an idle time of 10 seconds. -/
def raised : History :=
  [⟨⟨9000000000⟩, .setThreshold (.ofMillis 30000)⟩, ⟨⟨9000000000⟩, .guard "a.js:1:0"⟩,
    ⟨⟨5000000000⟩, .reset ⟨"a.js:1:0", "a.js", 1, 0⟩⟩, ⟨⟨0⟩, .reset ⟨"a.js:4:0", "a.js", 4, 0⟩⟩]

/-- Ten seconds after its reset the loop that runs is left by a sweep, and the other one is not. -/
theorem raised_swept :
    answer ⟨500, 10000⟩ ⟨⟨15000000000⟩, .guard "a.js:1:0"⟩ raised = .flag false ∧
    answer ⟨500, 10000⟩ ⟨⟨15000000000⟩, .guard "a.js:1:0"⟩ (⟨⟨15000000000⟩, .sweep⟩ :: raised) =
      .flag false ∧
    answer ⟨500, 10000⟩ ⟨⟨15000000000⟩, .guard "a.js:4:0"⟩ raised = .flag false ∧
    answer ⟨500, 10000⟩ ⟨⟨15000000000⟩, .guard "a.js:4:0"⟩ (⟨⟨15000000000⟩, .sweep⟩ :: raised) =
      .unknownKey "a.js:4:0" := by
  have hruns : answer ⟨500, 10000⟩ ⟨⟨15000000000⟩, .guard "a.js:1:0"⟩ raised = .flag false := by
    decide
  have hleft : answer ⟨500, 10000⟩ ⟨⟨15000000000⟩, .guard "a.js:4:0"⟩ raised = .flag false := by
    decide
  refine ⟨hruns, (guard_after_sweep _ _ _ _ hruns).1.2 ?_, hleft,
    (guard_after_sweep _ _ _ _ hleft).2.1.2 ?_⟩
  · rw [← overdue_iff]
    decide
  · rw [← overdue_iff]
    decide

/-- With a threshold of 0.5 seconds and an idle time of 0.1 seconds, a sweep after 0.2 seconds makes
the key of a loop unknown that may go on. -/
theorem sweep_interrupts :
    answer ⟨500, 100⟩ ⟨⟨200000000⟩, .guard "a.js:1:0"⟩
      [⟨⟨0⟩, .reset ⟨"a.js:1:0", "a.js", 1, 0⟩⟩] = .flag false ∧
    answer ⟨500, 100⟩ ⟨⟨200000000⟩, .guard "a.js:1:0"⟩
      [⟨⟨200000000⟩, .sweep⟩, ⟨⟨0⟩, .reset ⟨"a.js:1:0", "a.js", 1, 0⟩⟩] =
      .unknownKey "a.js:1:0" := by decide

end History

end LoopGuard
