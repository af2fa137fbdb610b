import LoopGuard.Registry.Session

/-!
# What a history says of a key

The calls that a registry has been given, each with what its clock read, say of every key whether it
is live, what it was described with, and when it was reset last, without a word of counters.

A key is live if it was reset and not removed since. Whether a call removes it may depend on the
file in its description, which is that of the first reset since the key became live, and on how long
ago it was reset last. So what a key was described with, `History.birth?`, is told along the
history; `History.Live` and `History.Born` say the same of a history as a whole.

Results:
* `History.since_cons`: what has been the case since some call, from one call to the next.
* `History.live_iff_isSome_birth?`, `History.born_iff_birth?`: what is told along a history is what
  holds of it as a whole.
* `History.removes_clear_iff`, `History.removes_forgetFile_iff`, `History.removes_sweep_iff`: what
  removes a key.
-/

namespace LoopGuard

/-- A call on a registry, and what the registry's clock reads then. -/
structure TimedCall where
  time : Instant
  call : HostCall
  deriving Repr, DecidableEq, Inhabited

namespace TimedCall

/-- What a key is reset with, if the call resets it. -/
def resetOf? (c : TimedCall) (key : String) : Option ResetOptions :=
  match c.call with
  | .reset o => if o.key = key then some o else none
  | _ => none

/-- The threshold that the call sets, if it sets one. -/
def threshold? (c : TimedCall) : Option Duration :=
  match c.call with
  | .setThreshold d => some d
  | _ => none

end TimedCall

/-- The calls on a registry, the latest one first. -/
abbrev History := List TimedCall

namespace History

variable {l : LoopLimits} {key : String} {c : TimedCall} {h before : History}

/-- What the clock read when a key was reset last. -/
def latest? (key : String) (h : History) : Option Instant :=
  (h.find? fun c => (c.resetOf? key).isSome).map (·.time)

/-- The threshold that was set last; before any is set it is that of the limits. -/
def threshold (l : LoopLimits) (h : History) : Duration :=
  (h.findSome? TimedCall.threshold?).getD l.threshold

/-- Whether a key has been idle for longer than it may at a time, if sweeping is on. -/
def overdue (l : LoopLimits) (key : String) (now : Instant) (h : History) : Bool :=
  match l.idleTtl, latest? key h with
  | some ttl, some t => decide (ttl.nanoseconds < (now.since t).nanoseconds)
  | _, _ => false

/-- Whether a call removes a key that is described with these options. -/
def removes (l : LoopLimits) (key : String) (c : TimedCall) (before : History)
    (o : ResetOptions) : Bool :=
  match c.call with
  | .clear => true
  | .forgetFile file => o.file == file
  | .sweep => overdue l key c.time before
  | _ => false

/-- What a live key is described with. A reset describes the key only if it was not live; a removal
takes the description away. -/
def birth? (l : LoopLimits) (key : String) : History → Option ResetOptions
  | [] => none
  | c :: before =>
    match c.resetOf? key with
    | some o => some ((birth? l key before).getD o)
    | none => (birth? l key before).filter fun o => !removes l key c before o

/-- Whether a call removes a live key. -/
def Removes (l : LoopLimits) (key : String) (c : TimedCall) (before : History) : Prop :=
  ∃ o, birth? l key before = some o ∧ removes l key c before o = true

/-- Whether none of these calls removes a key. -/
def Kept (l : LoopLimits) (key : String) : History → History → Prop
  | [], _ => True
  | c :: after, before => ¬ Removes l key c (after ++ before) ∧ Kept l key after before

/-- Whether there is such a call since which a key has not been removed. -/
def Since (l : LoopLimits) (key : String) (P : TimedCall → History → Prop) (h : History) : Prop :=
  ∃ after c before, h = after ++ c :: before ∧ P c before ∧ Kept l key after (c :: before)

/-- Whether a key was reset and not removed since. -/
def Live (l : LoopLimits) (key : String) (h : History) : Prop :=
  Since l key (fun c _ => (c.resetOf? key).isSome = true) h

/-- Whether a key became live with these options and was not removed since. -/
def Born (l : LoopLimits) (key : String) (o : ResetOptions) (h : History) : Prop :=
  Since l key (fun c before => c.resetOf? key = some o ∧ ¬ Live l key before) h

/-! ## From one call to the next -/

theorem latest?_cons (key : String) (c : TimedCall) (before : History) :
    latest? key (c :: before) =
      if (c.resetOf? key).isSome then some c.time else latest? key before := by
  unfold latest?
  rw [List.find?_cons]
  cases (c.resetOf? key).isSome <;> rfl

theorem threshold_cons (l : LoopLimits) (c : TimedCall) (before : History) :
    threshold l (c :: before) = c.threshold?.getD (threshold l before) := by
  unfold threshold
  rw [List.findSome?_cons]
  cases c.threshold? <;> rfl

/-- A reset removes nothing. -/
theorem not_removes_of_reset (hreset : (c.resetOf? key).isSome = true) :
    ¬ Removes l key c before := by
  rintro ⟨o, -, hremoves⟩
  unfold TimedCall.resetOf? at hreset
  unfold removes at hremoves
  cases hcall : c.call <;> simp [hcall] at hreset hremoves

/-- Since a call, the key has not been removed: it is this call, or it is an earlier one and this
one does not remove the key. -/
theorem since_cons {P : TimedCall → History → Prop} :
    Since l key P (c :: before) ↔
      P c before ∨ Since l key P before ∧ ¬ Removes l key c before := by
  constructor
  · rintro ⟨after, c', before', heq, hP, hkept⟩
    cases after with
    | nil =>
      cases heq
      exact .inl hP
    | cons c'' after =>
      cases heq
      exact .inr ⟨⟨after, c', before', rfl, hP, hkept.2⟩, hkept.1⟩
  · rintro (hP | ⟨⟨after, c', before', rfl, hP, hkept⟩, hremoves⟩)
    · exact ⟨[], c, before, rfl, hP, trivial⟩
    · exact ⟨c :: after, c', before', rfl, hP, hremoves, hkept⟩

theorem not_since_nil {P : TimedCall → History → Prop} : ¬ Since l key P [] := by
  rintro ⟨after, c, before, heq, -⟩
  cases after <;> cases heq

/-! ## Histories as a whole -/

theorem birth?_cons_of_reset {o : ResetOptions} (hreset : c.resetOf? key = some o) :
    birth? l key (c :: before) = some ((birth? l key before).getD o) := by
  rw [birth?, hreset]

/-- A call that does not reset a key leaves its description, unless it removes the key. -/
theorem birth?_cons_of_not_reset {o : ResetOptions} (hreset : c.resetOf? key = none) :
    birth? l key (c :: before) = some o ↔
      birth? l key before = some o ∧ ¬ Removes l key c before := by
  rw [birth?, hreset]
  cases hbirth : birth? l key before with
  | none => simp
  | some b =>
    have hremoves : Removes l key c before ↔ removes l key c before b = true := by
      simp [Removes, hbirth]
    rw [hremoves, Option.filter_some]
    cases removes l key c before b <;> simp

/-- Exactly the live keys have a description. -/
theorem live_iff_isSome_birth? : Live l key h ↔ (birth? l key h).isSome = true := by
  induction h with
  | nil =>
    constructor
    · intro hlive
      exact absurd hlive not_since_nil
    · intro hsome
      cases hsome
  | cons c before ih =>
    unfold Live at ih ⊢
    rw [since_cons, ih]
    cases hreset : c.resetOf? key with
    | some o => simp [birth?_cons_of_reset hreset]
    | none =>
      have hcons (o : ResetOptions) : birth? l key (c :: before) = some o ↔
          birth? l key before = some o ∧ ¬ Removes l key c before :=
        birth?_cons_of_not_reset hreset
      simp [Option.isSome_iff_exists, hcons]

/-- The description of a key is that of the reset with which it became live. -/
theorem born_iff_birth? {o : ResetOptions} : Born l key o h ↔ birth? l key h = some o := by
  induction h with
  | nil =>
    constructor
    · intro hborn
      exact absurd hborn not_since_nil
    · intro hsome
      cases hsome
  | cons c before ih =>
    unfold Born at ih ⊢
    rw [since_cons, ih, live_iff_isSome_birth?]
    cases hreset : c.resetOf? key with
    | some o' =>
      have hkeeps : ¬ Removes l key c before := not_removes_of_reset (by rw [hreset]; rfl)
      rw [birth?_cons_of_reset hreset]
      cases hbirth : birth? l key before with
      | none => simp
      | some b => simp [hkeeps]
    | none =>
      rw [birth?_cons_of_not_reset hreset]
      simp

example :
    birth? {} "k" [⟨⟨3⟩, .reset ⟨"k", "c.js", 3, 0⟩⟩, ⟨⟨2⟩, .reset ⟨"k", "b.js", 2, 0⟩⟩,
      ⟨⟨1⟩, .forgetFile "a.js"⟩, ⟨⟨0⟩, .reset ⟨"k", "a.js", 1, 0⟩⟩] =
      some ⟨"k", "b.js", 2, 0⟩ := by decide

/-- A live key has been reset. -/
theorem isSome_latest?_of_live (hlive : Live l key h) : (latest? key h).isSome = true := by
  obtain ⟨after, c, before, rfl, hreset, -⟩ := hlive
  unfold latest?
  rw [Option.isSome_map, List.find?_isSome]
  exact ⟨c, by simp, hreset⟩

/-! ## Removals -/

theorem removes_clear_iff {now : Instant} :
    Removes l key ⟨now, .clear⟩ before ↔ Live l key before := by
  rw [live_iff_isSome_birth?, Option.isSome_iff_exists]
  simp [Removes, removes]

theorem removes_forgetFile_iff {now : Instant} {file : String} :
    Removes l key ⟨now, .forgetFile file⟩ before ↔ ∃ o, Born l key o before ∧ o.file = file := by
  simp [Removes, removes, born_iff_birth?]

theorem overdue_iff {now : Instant} :
    overdue l key now h = true ↔
      ∃ ttl t, l.idleTtl = some ttl ∧ latest? key h = some t ∧
        ttl.nanoseconds < (now.since t).nanoseconds := by
  unfold overdue
  cases l.idleTtl <;> cases latest? key h <;> simp

/-- Sweeping removes the live keys that were reset last longer ago than the limits allow. -/
theorem removes_sweep_iff {now : Instant} :
    Removes l key ⟨now, .sweep⟩ before ↔
      Live l key before ∧ ∃ ttl t, l.idleTtl = some ttl ∧ latest? key before = some t ∧
        ttl.nanoseconds < (now.since t).nanoseconds := by
  rw [← overdue_iff, live_iff_isSome_birth?, Option.isSome_iff_exists]
  simp [Removes, removes]

end History

end LoopGuard
