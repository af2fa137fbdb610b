/-!
# Processes

What can be seen of something that runs and need not end: the events of its runs so far, and what a
run answers if it has ended. A run may be observed at any moment, so a process that goes on for ever
is the collection of its beginnings.

Results:
* `Proc.bind_assoc`, `Proc.pure_bind`, `Proc.bind_pure`: processes one after the other.
* `Proc.seen_bind`, `Proc.seen_choose`: what is left of a process when some of its events are not
  seen, and some are taken not to happen.
-/

namespace LoopGuard

/-- The runs of a process: the events so far, and the answer if the run has ended. -/
structure Proc (ε α : Type) where
  runs : List ε → Option α → Prop
  /-- A process can be observed before it does anything. -/
  cut : runs [] none
  /-- A process can be observed right before it ends. -/
  stop : ∀ {τ : List ε} {a : α}, runs τ (some a) → runs τ none

namespace Proc

variable {ε ε' α β γ : Type}

theorem ext {m n : Proc ε α} (h : ∀ τ r, m.runs τ r ↔ n.runs τ r) : m = n := by
  obtain ⟨mruns, _, _⟩ := m
  obtain ⟨nruns, _, _⟩ := n
  obtain rfl : mruns = nruns := funext fun τ => funext fun r => propext (h τ r)
  rfl

/-! ## Operations -/

/-- Ends at once. -/
protected def pure (a : α) : Proc ε α where
  runs τ r := τ = [] ∧ ∀ b ∈ r, b = a
  cut := ⟨rfl, nofun⟩
  stop h := ⟨h.1, nofun⟩

/-- A process, and behind it another one, which may depend on its answer. -/
protected def bind (m : Proc ε α) (f : α → Proc ε β) : Proc ε β where
  runs τ r := (r = none ∧ m.runs τ none) ∨
    ∃ a τ₁ τ₂, m.runs τ₁ (some a) ∧ (f a).runs τ₂ r ∧ τ₁ ++ τ₂ = τ
  cut := .inl ⟨rfl, m.cut⟩
  stop := by
    rintro τ b (⟨⟨⟩, -⟩ | ⟨a, τ₁, τ₂, hm, hf, rfl⟩)
    exact .inr ⟨a, τ₁, τ₂, hm, (f a).stop hf, rfl⟩

instance : Monad (Proc ε) where
  pure := Proc.pure
  bind := Proc.bind

/-- Shows an event. -/
def emit (e : ε) : Proc ε Unit where
  runs τ r := (τ = [] ∧ r = none) ∨ τ = [e]
  cut := .inl ⟨rfl, rfl⟩
  stop := by
    rintro τ a (⟨-, ⟨⟩⟩ | rfl)
    exact .inr rfl

/-- Any one of a family of processes. -/
def choose {ι : Sort u} (f : ι → Proc ε α) : Proc ε α where
  runs τ r := (τ = [] ∧ r = none) ∨ ∃ i, (f i).runs τ r
  cut := .inl ⟨rfl, rfl⟩
  stop := by
    rintro τ a (⟨-, ⟨⟩⟩ | ⟨i, h⟩)
    exact .inr ⟨i, (f i).stop h⟩

/-- A process of which nothing more is seen. -/
def halted : Proc ε α where
  runs τ r := τ = [] ∧ r = none
  cut := ⟨rfl, rfl⟩
  stop := by
    rintro τ a ⟨-, ⟨⟩⟩

theorem runs_bind {m : Proc ε α} {f : α → Proc ε β} {τ : List ε} {r : Option β} :
    (m >>= f).runs τ r ↔ (r = none ∧ m.runs τ none) ∨
      ∃ a τ₁ τ₂, m.runs τ₁ (some a) ∧ (f a).runs τ₂ r ∧ τ₁ ++ τ₂ = τ := Iff.rfl

theorem runs_choose {ι : Sort u} {f : ι → Proc ε α} {τ : List ε} {r : Option α} :
    (choose f).runs τ r ↔ (τ = [] ∧ r = none) ∨ ∃ i, (f i).runs τ r := Iff.rfl

theorem runs_halted {τ : List ε} {r : Option α} :
    (halted : Proc ε α).runs τ r ↔ τ = [] ∧ r = none := Iff.rfl

/-! ## Laws -/

theorem pure_bind (a : α) (f : α → Proc ε β) : pure a >>= f = f a := by
  refine ext fun τ r => ?_
  rw [runs_bind]
  constructor
  · rintro (⟨rfl, rfl, -⟩ | ⟨b, τ₁, τ₂, ⟨rfl, hb⟩, hf, rfl⟩)
    · exact (f a).cut
    · rw [hb b rfl] at hf
      exact hf
  · intro h
    exact .inr ⟨a, [], τ, ⟨rfl, fun _ hb => (Option.some.inj hb).symm⟩, h, rfl⟩

theorem bind_pure (m : Proc ε α) : m >>= pure = m := by
  refine ext fun τ r => ?_
  rw [runs_bind]
  constructor
  · rintro (⟨rfl, h⟩ | ⟨a, τ₁, τ₂, hm, ⟨rfl, hr⟩, rfl⟩)
    · exact h
    · rw [List.append_nil]
      cases r with
      | none => exact m.stop hm
      | some b => rwa [hr b rfl]
  · intro h
    cases r with
    | none => exact .inl ⟨rfl, h⟩
    | some a => exact .inr ⟨a, τ, [], h, ⟨rfl, fun _ hb => (Option.some.inj hb).symm⟩, by simp⟩

theorem bind_assoc (m : Proc ε α) (f : α → Proc ε β) (g : β → Proc ε γ) :
    m >>= f >>= g = m >>= fun a => f a >>= g := by
  refine ext fun τ r => ?_
  simp only [runs_bind]
  constructor
  · rintro (⟨rfl, ⟨-, h⟩ | ⟨a, τ₁, τ₂, hm, hf, rfl⟩⟩ |
      ⟨b, _, τ₃, ⟨⟨⟩, -⟩ | ⟨a, τ₁, τ₂, hm, hf, rfl⟩, hg, rfl⟩)
    · exact .inl ⟨rfl, h⟩
    · exact .inr ⟨a, τ₁, τ₂, hm, .inl ⟨rfl, hf⟩, rfl⟩
    · exact .inr ⟨a, τ₁, τ₂ ++ τ₃, hm, .inr ⟨b, τ₂, τ₃, hf, hg, rfl⟩, by simp⟩
  · rintro (⟨rfl, h⟩ | ⟨a, τ₁, _, hm, ⟨rfl, hf⟩ | ⟨b, τ₂, τ₃, hf, hg, rfl⟩, rfl⟩)
    · exact .inl ⟨rfl, .inl ⟨trivial, h⟩⟩
    · exact .inl ⟨rfl, .inr ⟨a, τ₁, _, hm, hf, rfl⟩⟩
    · exact .inr ⟨b, τ₁ ++ τ₂, τ₃, .inr ⟨a, τ₁, τ₂, hm, hf, rfl⟩, hg, by simp⟩

instance : LawfulMonad (Proc ε) :=
  LawfulMonad.mk' (Proc ε) (fun m => bind_pure m) pure_bind bind_assoc

theorem halted_bind (f : α → Proc ε β) : halted >>= f = halted := by
  refine ext fun τ r => ?_
  rw [runs_bind, runs_halted]
  constructor
  · rintro (⟨rfl, rfl, -⟩ | ⟨a, τ₁, τ₂, ⟨-, ⟨⟩⟩, -, -⟩)
    exact ⟨rfl, rfl⟩
  · rintro ⟨rfl, rfl⟩
    exact .inl ⟨rfl, rfl, rfl⟩

theorem choose_bind {ι : Sort u} (f : ι → Proc ε α) (g : α → Proc ε β) :
    choose f >>= g = choose fun i => f i >>= g := by
  refine ext fun τ r => ?_
  simp only [runs_bind, runs_choose]
  constructor
  · rintro (⟨rfl, ⟨rfl, -⟩ | ⟨i, h⟩⟩ | ⟨a, τ₁, τ₂, ⟨-, ⟨⟩⟩ | ⟨i, hf⟩, hg, rfl⟩)
    · exact .inl ⟨rfl, rfl⟩
    · exact .inr ⟨i, .inl ⟨rfl, h⟩⟩
    · exact .inr ⟨i, .inr ⟨a, τ₁, τ₂, hf, hg, rfl⟩⟩
  · rintro (⟨rfl, rfl⟩ | ⟨i, ⟨rfl, h⟩ | ⟨a, τ₁, τ₂, hf, hg, rfl⟩⟩)
    · exact .inl ⟨rfl, .inl ⟨rfl, trivial⟩⟩
    · exact .inl ⟨rfl, .inr ⟨i, h⟩⟩
    · exact .inr ⟨a, τ₁, τ₂, .inr ⟨i, hf⟩, hg, rfl⟩

/-- A family in which something is `m` and nothing is more. -/
theorem choose_eq {ι : Sort u} {f : ι → Proc ε α} {m : Proc ε α} (i : ι) (hi : f i = m)
    (h : ∀ j, f j = m ∨ f j = halted) : choose f = m := by
  refine ext fun τ r => ?_
  rw [runs_choose]
  constructor
  · rintro (⟨rfl, rfl⟩ | ⟨j, hj⟩)
    · exact m.cut
    · rcases h j with hm | hh
      · rwa [hm] at hj
      · rw [hh] at hj
        obtain ⟨rfl, rfl⟩ := hj
        exact m.cut
  · intro hm
    rw [← hi] at hm
    exact .inr ⟨i, hm⟩

/-! ## Repetition -/

/-- A process, over and over. -/
def star (m : Proc ε Unit) : Proc ε Unit := choose (times m)
where
  /-- A process, so many times. -/
  times (m : Proc ε Unit) : Nat → Proc ε Unit
    | 0 => pure ()
    | n + 1 => m >>= fun _ => times m n

/-! ## Events that are not seen -/

/-- What is seen of the runs in which no other than certain events happen. -/
def seen (happens : ε → Prop) (view : ε → Option ε') (m : Proc ε α) : Proc ε' α where
  runs τ r := ∃ τ', m.runs τ' r ∧ (∀ e ∈ τ', happens e) ∧ τ'.filterMap view = τ
  cut := ⟨[], m.cut, nofun, rfl⟩
  stop := by
    rintro τ a ⟨τ', h, hτ⟩
    exact ⟨τ', m.stop h, hτ⟩

variable {happens : ε → Prop} {view : ε → Option ε'}

theorem runs_seen {m : Proc ε α} {τ : List ε'} {r : Option α} :
    (m.seen happens view).runs τ r ↔
      ∃ τ', m.runs τ' r ∧ (∀ e ∈ τ', happens e) ∧ τ'.filterMap view = τ := Iff.rfl

theorem seen_pure (a : α) : (pure a : Proc ε α).seen happens view = pure a := by
  refine ext fun τ r => ?_
  rw [runs_seen]
  constructor
  · rintro ⟨_, ⟨rfl, hr⟩, -, rfl⟩
    exact ⟨rfl, hr⟩
  · rintro ⟨rfl, hr⟩
    exact ⟨[], ⟨rfl, hr⟩, nofun, rfl⟩

theorem seen_bind (m : Proc ε α) (f : α → Proc ε β) :
    (m >>= f).seen happens view = m.seen happens view >>= fun a => (f a).seen happens view := by
  refine ext fun τ r => ?_
  simp only [runs_seen, runs_bind]
  constructor
  · rintro ⟨_, ⟨rfl, h⟩ | ⟨a, τ₁, τ₂, hm, hf, rfl⟩, ha, rfl⟩
    · exact .inl ⟨rfl, _, h, ha, rfl⟩
    · rw [List.forall_mem_append] at ha
      exact .inr ⟨a, _, _, ⟨τ₁, hm, ha.1, rfl⟩, ⟨τ₂, hf, ha.2, rfl⟩, by simp⟩
  · rintro (⟨rfl, τ', h, ha, rfl⟩ | ⟨a, _, _, ⟨τ₁, hm, ha₁, rfl⟩, ⟨τ₂, hf, ha₂, rfl⟩, rfl⟩)
    · exact ⟨τ', .inl ⟨rfl, h⟩, ha, rfl⟩
    · exact ⟨τ₁ ++ τ₂, .inr ⟨a, τ₁, τ₂, hm, hf, rfl⟩, List.forall_mem_append.2 ⟨ha₁, ha₂⟩, by simp⟩

theorem seen_choose {ι : Sort u} (f : ι → Proc ε α) :
    (choose f).seen happens view = choose fun i => (f i).seen happens view := by
  refine ext fun τ r => ?_
  simp only [runs_seen, runs_choose]
  constructor
  · rintro ⟨_, ⟨rfl, rfl⟩ | ⟨i, h⟩, ha, rfl⟩
    · exact .inl ⟨rfl, rfl⟩
    · exact .inr ⟨i, _, h, ha, rfl⟩
  · rintro (⟨rfl, rfl⟩ | ⟨i, τ', h, ha, rfl⟩)
    · exact ⟨[], .inl ⟨rfl, rfl⟩, nofun, rfl⟩
    · exact ⟨τ', .inr ⟨i, h⟩, ha, rfl⟩

theorem seen_halted : (halted : Proc ε α).seen happens view = halted := by
  refine ext fun τ r => ?_
  rw [runs_seen]
  constructor
  · rintro ⟨_, ⟨rfl, rfl⟩, -, rfl⟩
    exact ⟨rfl, rfl⟩
  · rintro ⟨rfl, rfl⟩
    exact ⟨[], ⟨rfl, rfl⟩, nofun, rfl⟩

/-- An event that happens and is seen. -/
theorem seen_emit {e : ε} {e' : ε'} (hh : happens e) (hv : view e = some e') :
    (emit e).seen happens view = emit e' := by
  refine ext fun τ r => ?_
  rw [runs_seen]
  constructor
  · rintro ⟨_, ⟨rfl, rfl⟩ | rfl, -, rfl⟩
    · exact .inl ⟨rfl, rfl⟩
    · exact .inr (by simp [hv])
  · rintro (⟨rfl, rfl⟩ | rfl)
    · exact ⟨[], .inl ⟨rfl, rfl⟩, nofun, rfl⟩
    · exact ⟨[e], .inr rfl, by simpa using hh, by simp [hv]⟩

/-- An event that happens and is not seen. -/
theorem seen_emit_hidden {e : ε} (hh : happens e) (hv : view e = none) :
    (emit e).seen happens view = pure () := by
  refine ext fun τ r => ?_
  rw [runs_seen]
  constructor
  · rintro ⟨_, ⟨rfl, rfl⟩ | rfl, -, rfl⟩
    · exact ⟨rfl, nofun⟩
    · exact ⟨by simp [hv], fun _ _ => rfl⟩
  · rintro ⟨rfl, -⟩
    exact ⟨[e], .inr rfl, by simpa using hh, by simp [hv]⟩

/-- An event that does not happen. -/
theorem seen_emit_refused {e : ε} (hh : ¬happens e) :
    (emit e).seen happens view = halted := by
  refine ext fun τ r => ?_
  rw [runs_seen]
  constructor
  · rintro ⟨_, ⟨rfl, rfl⟩ | rfl, ha, rfl⟩
    · exact ⟨rfl, rfl⟩
    · exact absurd (ha e (List.mem_singleton.2 rfl)) hh
  · rintro ⟨rfl, rfl⟩
    exact ⟨[], .inl ⟨rfl, rfl⟩, nofun, rfl⟩

end Proc

end LoopGuard
