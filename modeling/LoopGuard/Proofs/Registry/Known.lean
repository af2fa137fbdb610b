import LoopGuard.Registry.Session

/-!
# Known keys

A key that has been reset stays known as long as nothing is forgotten on purpose, and the guard of a
known key answers yes or no.

Results:
* `Session.answer_guard`: what a guard answers.
* `Session.Knows.step`, `Session.Knows.after`: known keys stay known.
* `Session.knows_after_reset`: a key that has been reset is known.
* `Session.Knows.guard`: the guard of a known key.
-/

namespace LoopGuard

/-- Whether the call may remove counters. -/
def HostCall.forgets : HostCall → Bool
  | clear | forgetFile _ | sweep => true
  | _ => false

namespace Session

/-- Whether a key has a counter. -/
def Knows (s : Session) (key : String) : Prop := (s.registry.get? key).isSome = true

/-- A session after some calls. -/
def after (s : Session) (calls : List HostCall) : Session := calls.foldl (fun s c => (s.step c).1) s

@[simp] theorem registry_deliver (s : Session) (e : CounterEntry) :
    (s.deliver e).1.registry = s.registry := by
  unfold deliver
  split
  · rfl
  · rfl
  · split
    · split <;> rfl
    · rfl

@[simp] theorem registry_guard (s : Session) (key : String) :
    (s.guard key).1.registry = s.registry := by
  unfold guard
  split
  · rfl
  · rfl
  · exact registry_deliver s _

/-- What a guard answers, by the counter of the key. -/
theorem answer_guard (s : Session) (key : String) :
    (s.guard key).2.answer =
      match s.registry.get? key with
      | none => .unknownKey key
      | some e =>
        .flag (decide (s.registry.threshold.nanoseconds ≤ (e.elapsed s.now).nanoseconds)) := by
  unfold guard Registry.guard
  cases s.registry.get? key with
  | none => rfl
  | some e =>
    by_cases hlt : (e.elapsed s.now).nanoseconds < s.registry.threshold.nanoseconds
    · have hle : ¬ s.registry.threshold.nanoseconds ≤ (e.elapsed s.now).nanoseconds := by omega
      simp [hlt, hle]
    · have hle : s.registry.threshold.nanoseconds ≤ (e.elapsed s.now).nanoseconds := by omega
      simp [hlt, hle]

theorem knows_reset (s : Session) (o : ResetOptions) : (s.step (.reset o)).1.Knows o.key := by
  show ((s.registry.reset o s.now).get? o.key).isSome = true
  rw [Registry.get?_reset_self]
  split <;> rfl

namespace Knows

variable {s : Session} {key : String}

theorem step {c : HostCall} (h : s.Knows key) (hc : c.forgets = false) :
    (s.step c).1.Knows key := by
  cases c with
  | reset o =>
    by_cases hkey : key = o.key
    · rw [hkey]
      exact knows_reset s o
    · show ((s.registry.reset o s.now).get? key).isSome = true
      rw [Registry.get?_reset_of_ne hkey]
      exact h
  | guard key' =>
    show (((s.guard key').1.registry).get? key).isSome = true
    rw [registry_guard]
    exact h
  | clear | forgetFile | sweep => cases hc
  | receive =>
    simp only [Session.step]
    split <;> exact h
  | _ => exact h

theorem after {calls : List HostCall} (h : s.Knows key) (hc : ∀ c ∈ calls, c.forgets = false) :
    (s.after calls).Knows key := by
  induction calls generalizing s with
  | nil => exact h
  | cons c rest ih =>
    rw [List.forall_mem_cons] at hc
    exact ih (h.step hc.1) hc.2

/-- The guard of a known key answers yes or no. -/
theorem guard (h : s.Knows key) : ∃ b, (s.step (.guard key)).2.answer = .flag b := by
  obtain ⟨e, he⟩ := Option.isSome_iff_exists.1 h
  show ∃ b, (s.guard key).2.answer = .flag b
  rw [answer_guard, he]
  exact ⟨_, rfl⟩

end Knows

/-- A key that has been reset is known until something is forgotten. -/
theorem knows_after_reset {s : Session} {o : ResetOptions} {calls : List HostCall}
    (ho : .reset o ∈ calls) (hc : ∀ c ∈ calls, c.forgets = false) :
    (s.after calls).Knows o.key := by
  induction calls generalizing s with
  | nil => cases ho
  | cons c rest ih =>
    rw [List.forall_mem_cons] at hc
    rcases List.mem_cons.1 ho with rfl | ho
    · exact (knows_reset s o).after hc.2
    · exact ih ho hc.2

end Session

end LoopGuard
