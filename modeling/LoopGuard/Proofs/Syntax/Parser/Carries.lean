import LoopGuard.Proofs.Syntax.Lexer.Bare
import LoopGuard.Proofs.Syntax.Parser.Reads

/-!
# Flaws that are not passed over

A reader of a bare text has a flaw ahead, or has noted a fault. Steps do not change that: a step
that takes a flawed token notes a fault or fails. What a failed step leaves behind is told as well,
because reading may go on there.

Results:
* `Parse.Carries.bind`, `Parse.Carries.loop`: steps in a row, and repeated ones.
* `Parse.Carries.rescue`, `Parse.Carries.attempt`: steps whose failure is met, or is put off.
* `Parse.Looks.carries`: a step that only looks carries all hints along.
-/

namespace LoopGuard

namespace Reader

/-- Whether a reader stands in front of a bare text. -/
structure Bare (r : Reader) : Prop where
  lexer : r.lexer.Bare
  current : ∀ t ∈ r.current, t.token.IsBare
  ahead : ∀ t ∈ r.ahead, t.token.IsBare

/-- Whether a fault has been noted. -/
def Noted (r : Reader) : Prop := r.lexer.faults ≠ #[]

/-- Whether a flaw lies ahead. -/
def HasFlaw (r : Reader) : Prop :=
  (∃ t ∈ r.current, t.token.isFlawed = true) ∨ (∃ t ∈ r.ahead, t.token.isFlawed = true) ∨
    Lexer.HasStray r.lexer.rest

/-- Whether the current token can be taken without passing over a flaw. -/
def Ready (r : Reader) : Prop := r.Noted ∨ ∃ t ∈ r.current, t.token.isFlawed = false

end Reader

namespace Parse

/-- What is known about the flaw of a bare text: nothing; that it lies ahead unless a fault has been
noted; that a fault has been noted. -/
inductive Stage where
  | lost
  | sought
  | found

/-- What is still known where a step has failed. -/
def Stage.fallback : Stage → Stage
  | lost | sought => lost
  | found => found

/-- Whether a reader of a bare text is where a stage says. -/
def Stage.Holds (r : Reader) : Stage → Prop
  | lost => r.Bare
  | sought => r.Bare ∧ (r.Noted ∨ r.HasFlaw)
  | found => r.Bare ∧ r.Noted

/-- What a step is told about the reader: nothing; that the current token can be taken; that a fault
has been noted. -/
inductive Hint where
  | none
  | ready
  | noted

/-- Whether a hint is right. -/
def Hint.Holds (r : Reader) : Hint → Prop
  | none => True
  | ready => r.Ready
  | noted => r.Noted

/-- Whether a step that succeeds keeps what is known about the flaw, answers something with a
property and leaves a reader that a hint is right about; and what a step leaves behind that
fails. -/
def Carries (k : Hint) (p : Parse α) (P : α → Prop) (k' : α → Hint) : Prop :=
  ∀ (stage : Stage) (r : Reader), stage.Holds r → k.Holds r →
    match p r with
    | .ok a r' => stage.Holds r' ∧ P a ∧ (k' a).Holds r'
    | .error _ r' => stage.fallback.Holds r'

/-- Whether a step keeps what is known about the flaw, whatever it answers. -/
abbrev Keeps (k : Hint) (p : Parse α) : Prop := Carries k p (fun _ => True) fun _ => .none

/-- Whether a step fails, and does not forget that a fault has been noted. -/
abbrev Stops (k : Hint) (p : Parse α) : Prop := Carries k p (fun _ => False) fun _ => .none

section

variable {stage : Stage} {k : Hint} {r r' : Reader}

theorem Stage.Holds.bare (h : stage.Holds r) : r.Bare := by
  cases stage with
  | lost => exact h
  | sought => exact h.1
  | found => exact h.1

/-- Where a fault has been noted, no more is to be known. -/
theorem Stage.holds_of_noted (stage : Stage) (hr : r.Bare) (h : r.Noted) : stage.Holds r := by
  cases stage with
  | lost => exact hr
  | sought => exact ⟨hr, .inl h⟩
  | found => exact ⟨hr, h⟩

/-- What is known is not forgotten where the reader is in no worse a place. -/
theorem Stage.Holds.mono (h : stage.Holds r) (hr : r'.Bare) (hnoted : r.Noted → r'.Noted)
    (hflaw : r.HasFlaw → r'.Noted ∨ r'.HasFlaw) : stage.Holds r' := by
  cases stage with
  | lost => exact hr
  | sought =>
    refine ⟨hr, ?_⟩
    rcases h.2 with h | h
    · exact .inl (hnoted h)
    · exact hflaw h
  | found => exact ⟨hr, hnoted h.2⟩

theorem Stage.Holds.fallback (h : stage.Holds r) (hr : r'.Bare) (hnoted : r.Noted → r'.Noted) :
    stage.fallback.Holds r' := by
  cases stage with
  | lost => exact hr
  | sought => exact hr
  | found => exact ⟨hr, hnoted h.2⟩

end

namespace Carries

variable {k k₁ k₂ : Hint} {p q : Parse α} {P Q : α → Prop} {k' k'' : α → Hint}

theorem pure {a : α} (h : P a) : Carries k (Pure.pure a) P fun _ => .none :=
  fun _ _ hr _ => ⟨hr, h, trivial⟩

/-- An answer that changes nothing about a hint. -/
theorem answer {a : α} (h : P a) : Carries k (Pure.pure a) P fun _ => k :=
  fun _ _ hr hk => ⟨hr, h, hk⟩

theorem bind {f : α → Parse β} {P : β → Prop} {l : β → Hint} (hp : Carries k p Q k')
    (hf : ∀ a, Q a → Carries (k' a) (f a) P l) : Carries k (p >>= f) P l := by
  intro stage r hr hk
  have hfirst := hp stage r hr hk
  rw [bind_apply]
  split at hfirst
  next a r₁ hok =>
    rw [hok]
    exact hf a hfirst.2.1 stage r₁ hfirst.1 hfirst.2.2
  next d r₁ herror =>
    rw [herror]
    exact hfirst

/-- A step whose answer does not matter. -/
theorem after {f : α → Parse β} {P : β → Prop} {l : β → Hint} (hp : Carries k p Q fun _ => k₁)
    (hf : ∀ a, Carries k₁ (f a) P l) : Carries k (p >>= f) P l :=
  hp.bind fun a _ => hf a

/-- A step that is told nothing about but that it keeps what is known. -/
theorem skip {f : α → Parse β} {P : β → Prop} {l : β → Hint} (hp : Keeps k p)
    (hf : ∀ a, Carries .none (f a) P l) : Carries k (p >>= f) P l :=
  hp.after hf

/-- What a step answers and leaves, told less exactly. -/
theorem mono (hp : Carries k p P k') (h : ∀ a, P a → Q a)
    (hk : ∀ a r, P a → (k' a).Holds r → (k'' a).Holds r) : Carries k p Q k'' := by
  intro stage r hr hr'
  have hres := hp stage r hr hr'
  split at hres
  next hok => exact ⟨hres.1, h _ hres.2.1, hk _ _ hres.2.1 hres.2.2⟩
  next herror => exact hres

theorem map {f : α → β} {P : β → Prop} (hp : Carries k p (fun a => P (f a)) fun _ => .none) :
    Carries k (f <$> p) P fun _ => .none := by
  rw [map_eq_pure_bind]
  exact hp.bind fun _ h => .pure h

theorem some (hp : Keeps k p) : Keeps k (Option.some <$> p) := map hp

/-- A step that needs no hint. -/
theorem unasked (hp : Carries .none p P k') : Carries k p P k' :=
  fun stage r hr _ => hp stage r hr trivial

/-- Where a fault has been noted, any token can be taken. -/
theorem unready (hp : Carries .ready p P k') : Carries .noted p P k' :=
  fun stage r hr hk => hp stage r hr (.inl hk)

/-- That a fault has been noted is not forgotten. -/
theorem noted (hp : Carries .noted p P k') : Carries .noted p P fun _ => .noted := by
  intro stage r hr hk
  have hres := hp .found r ⟨hr.bare, hk⟩ hk
  split at hres
  next hok => exact ⟨stage.holds_of_noted hres.1.1 hres.1.2, hres.2.1, hres.1.2⟩
  next herror => exact Stage.holds_of_noted _ hres.1 hres.2

theorem throw (d : Diagnostic) : Carries k (MonadExcept.throw d) P k' :=
  fun _ _ hr _ => hr.fallback hr.bare id

/-- A step that stops answers anything. -/
theorem stops (hp : Stops k p) : Carries k p P k' :=
  hp.mono (fun _ => False.elim) fun _ _ => False.elim

/-- Nothing follows a step that stops. -/
theorem ends {f : α → Parse β} {P : β → Prop} {l : β → Hint} (hp : Stops k p) :
    Carries k (p >>= f) P l := hp.bind fun _ => False.elim

theorem ite {c : Prop} [Decidable c] (hp : Carries k p P k') (hq : Carries k q P k') :
    Carries k (if c then p else q) P k' := by
  split
  · exact hp
  · exact hq

theorem fails {c : Prop} [Decidable c] (hc : ¬ c) (hq : Carries k q P k') :
    Carries k (if c then p else q) P k' := by
  rw [if_neg hc]
  exact hq

/-- A step that is taken or not, and what follows in both cases. -/
theorem when {c : Prop} [Decidable c] {n : Parse β}
    (hn : Carries k n (fun _ => True) fun _ => .none)
    (hp : Carries .none p P k') : Carries k (if c then n >>= fun _ => p else p) P k' :=
  ite (hn.skip fun _ => hp) hp.unasked

/-- Two steps that are taken or not, and what follows in both cases. -/
theorem when₂ {c : Prop} [Decidable c] {n : Parse β} {n' : β → Parse γ}
    (hn : Carries k n (fun _ => True) fun _ => .none) (hn' : ∀ b, Keeps .none (n' b))
    (hp : Carries .none p P k') :
    Carries k (if c then n >>= fun b => n' b >>= fun _ => p else p) P k' :=
  ite (hn.skip fun b => (hn' b).skip fun _ => hp) hp.unasked

/-- A question whose answer yes tells that the current token can be taken. -/
theorem ask {p : Parse Bool} {f g : Bool → Parse β} {P : β → Prop} {l : β → Hint}
    (hp : Carries k p (fun _ => True) fun b => bif b then k₁ else k₂)
    (hf : Carries k₁ (f true) P l) (hg : Carries k₂ (g false) P l) :
    Carries k (p >>= fun b => if b then f b else g b) P l := by
  refine hp.bind fun b _ => ?_
  cases b with
  | false => exact hg
  | true => exact hf

/-- A question that is answered with no. -/
theorem no {p : Parse Bool} {f g : Bool → Parse β} {P : β → Prop} {l : β → Hint}
    (hp : Carries k p (· = false) fun _ => k₁) (hg : Carries k₁ (g false) P l) :
    Carries k (p >>= fun b => if b then f b else g b) P l := by
  refine hp.bind ?_
  rintro _ rfl
  exact hg

theorem both {p q : Parse Bool} (hp : Keeps k p) (hq : Keeps .none q) : Keeps k (Parse.both p q) :=
  hp.skip fun _ => .ite hq (.pure trivial)

theorem both_fails {p q : Parse Bool} (hp : Carries k p (· = false) fun _ => k) :
    Carries k (Parse.both p q) (· = false) fun _ => k := by
  refine hp.bind ?_
  rintro _ rfl
  exact answer rfl

theorem both_no {p q : Parse Bool} (hp : Carries k p (fun _ => True) fun _ => k)
    (hq : Carries k q (· = false) fun _ => k) :
    Carries k (Parse.both p q) (· = false) fun _ => k := by
  refine hp.after fun _ => .ite hq ?_
  exact answer rfl

theorem repeatFor {step : σ → Parse (Step σ)}
    (hstep : ∀ s, Carries k (step s) (fun _ => True) fun _ => k) :
    ∀ (fuel : Nat) (s : σ), Carries k (Parse.repeatFor step fuel s) (fun _ => True) fun _ => k
  | 0, s => answer trivial
  | fuel + 1, s => by
    refine after (hstep s) fun next => ?_
    cases next with
    | again s' => exact repeatFor hstep fuel s'
    | done s' => exact answer trivial

theorem loop {state : σ} {step : σ → Parse (Step σ)}
    (hstep : ∀ s, Carries k (step s) (fun _ => True) fun _ => k) :
    Carries k (Parse.loop state step) (fun _ => True) fun _ => k := by
  have hget : Carries k (get : Parse Reader) (fun _ => True) fun _ => k :=
    fun _ _ hr hk => ⟨hr, trivial, hk⟩
  exact hget.after fun _ => repeatFor hstep _ state

end Carries

/-! ## Failures that are met -/

/-- Whether a step that is taken where another one has failed finds what was known about the flaw
again. -/
def Rescues (p : Parse α) (P : α → Prop) : Prop :=
  ∀ (stage : Stage) (r : Reader), stage.fallback.Holds r →
    match p r with
    | .ok a r' => stage.Holds r' ∧ P a
    | .error _ r' => stage.fallback.Holds r'

namespace Rescues

variable {p q : Parse α} {P : α → Prop}

theorem throw (d : Diagnostic) : Rescues (MonadExcept.throw d) P := fun _ _ hr => hr

/-- Nothing follows where the failure is passed on. -/
theorem ends {f : α → Parse β} {P : β → Prop} (d : Diagnostic) :
    Rescues (MonadExcept.throw d >>= f) P := fun _ _ hr => hr

theorem skip {f : α → Parse β} {P : β → Prop} (hp : Keeps .none p) (hf : ∀ a, Rescues (f a) P) :
    Rescues (p >>= f) P := by
  intro stage r hr
  have hfirst := hp stage.fallback r hr trivial
  rw [bind_apply]
  split at hfirst
  next a r₁ hok =>
    rw [hok]
    exact hf a stage r₁ hfirst.1
  next d r₁ herror =>
    rw [herror]
    cases stage with
    | lost | sought | found => exact hfirst

theorem ite {c : Prop} [Decidable c] (hp : Rescues p P) (hq : Rescues q P) :
    Rescues (if c then p else q) P := by
  split
  · exact hp
  · exact hq

/-- Where a fault is noted, what was known is known again. -/
theorem of_noted {n : Parse β} {f : β → Parse α}
    (hn : Carries .none n (fun _ => True) fun _ => .noted)
    (hf : ∀ b, Carries .noted (f b) P fun _ => .none) : Rescues (n >>= f) P := by
  intro stage r hr
  have hfirst := hn stage.fallback r hr trivial
  rw [bind_apply]
  split at hfirst
  next b r₁ hok =>
    rw [hok]
    have hrest := hf b stage r₁ (stage.holds_of_noted hfirst.1.bare hfirst.2.2) hfirst.2.2
    dsimp only
    split at hrest
    next hok' =>
      rw [hok']
      exact ⟨hrest.1, hrest.2.1⟩
    next herror =>
      rw [herror]
      exact hrest
  next d r₁ herror =>
    rw [herror]
    cases stage with
    | lost | sought | found => exact hfirst

end Rescues

namespace Carries

variable {k k₁ k₂ : Hint} {p q : Parse α} {P Q : α → Prop} {k' k'' : α → Hint}

/-- A step whose failure is met by another one. -/
theorem rescue {handle : Diagnostic → Parse α} (hp : Carries k p P fun _ => .none)
    (hh : ∀ d, Rescues (handle d) P) : Carries k (tryCatch p handle) P fun _ => .none := by
  intro stage r hr hk
  have hres := hp stage r hr hk
  rw [tryCatch_apply]
  split at hres
  next hok =>
    rw [hok]
    exact hres
  next d r₁ herror =>
    rw [herror]
    have hrest := hh d stage r₁ hres
    dsimp only
    split at hrest
    next hok' =>
      rw [hok']
      exact ⟨hrest.1, hrest.2, trivial⟩
    next herror' =>
      rw [herror']
      exact hrest

/-- A step whose failure goes for nothing, behind a fault that has been noted. -/
theorem ignored {a : α} (hp : Keeps .none p) :
    Carries .noted (tryCatch p fun _ => Pure.pure a) (fun _ => True) fun _ => .noted := by
  intro stage r hr hk
  have hres := hp .found r ⟨hr.bare, hk⟩ trivial
  rw [tryCatch_apply]
  split at hres
  next hok =>
    rw [hok]
    exact ⟨stage.holds_of_noted hres.1.1 hres.1.2, trivial, hres.1.2⟩
  next d r₁ herror =>
    rw [herror]
    exact ⟨stage.holds_of_noted hres.1 hres.2, trivial, hres.2⟩

/-- A step whose failure is put off, and what follows in both cases. -/
theorem attempt {f : Except Diagnostic α → Parse β} {P : β → Prop} (hp : Carries k p Q k')
    (hok : ∀ a, Q a → Carries (k' a) (f (.ok a)) P fun _ => .none)
    (herror : ∀ d, Rescues (f (.error d)) P) :
    Carries k (tryCatch (Except.ok <$> p) (fun d => Pure.pure (Except.error d)) >>= f) P
      fun _ => .none := by
  intro stage r hr hk
  have hres := hp stage r hr hk
  have hbind : (tryCatch (Except.ok <$> p) (fun d => Pure.pure (Except.error d)) >>= f) r =
      match p r with
      | .ok a r' => f (.ok a) r'
      | .error d r' => f (.error d) r' := by
    rw [bind_apply, tryCatch_apply, map_apply]
    cases p r <;> rfl
  rw [hbind]
  split at hres
  next a r₁ h => exact hok a hres.2.1 stage r₁ hres.1 hres.2.2
  next d r₁ h =>
    have hrest := herror d stage r₁ hres
    dsimp only
    split at hrest
    next h' =>
      rw [h']
      exact ⟨hrest.1, hrest.2, trivial⟩
    next h' =>
      rw [h']
      exact hrest

end Carries

/-! ## Looking -/

theorem forall_mem_none {P : PlacedToken → Prop} : ∀ t ∈ (none : Option PlacedToken), P t :=
  fun t ht => absurd ht (Option.not_mem_none t)

/-- Whether a reader has gone nowhere since: no token has been taken, and no fault forgotten. -/
structure Looked (r r' : Reader) : Prop where
  bare : r'.Bare
  noted : r.Noted → r'.Noted
  flaw : r.HasFlaw → r'.HasFlaw
  current : ∀ t, r.current = some t → r'.current = some t

theorem Looked.refl {r : Reader} (h : r.Bare) : Looked r r := ⟨h, id, id, fun _ => id⟩

theorem Looked.trans {r r₁ r' : Reader} (h : Looked r r₁) (h' : Looked r₁ r') : Looked r r' where
  bare := h'.bare
  noted hr := h'.noted (h.noted hr)
  flaw hr := h'.flaw (h.flaw hr)
  current t ht := h'.current t (h.current t ht)

/-- Where no token has been taken, hints are still right. -/
theorem Looked.holds {r r' : Reader} (h : Looked r r') {k : Hint} (hk : k.Holds r) :
    k.Holds r' := by
  cases k with
  | none => trivial
  | ready =>
    rcases hk with hk | ⟨t, ht, hflaw⟩
    · exact .inl (h.noted hk)
    · exact .inr ⟨t, h.current t ht, hflaw⟩
  | noted => exact h.noted hk

theorem Stage.Holds.looked {stage : Stage} {r r' : Reader} (h : stage.Holds r) (h' : Looked r r') :
    stage.Holds r' :=
  h.mono h'.bare h'.noted fun hr => .inr (h'.flaw hr)

/-- Whether a step only looks: it succeeds and takes nothing. -/
def Looks (p : Parse α) (P : α → Reader → Prop) : Prop :=
  ∀ r, r.Bare → ∃ a r', p r = .ok a r' ∧ Looked r r' ∧ P a r'

namespace Looks

variable {p q : Parse α} {P Q : α → Reader → Prop}

theorem pure (a : α) : Looks (Pure.pure a) fun _ _ => True :=
  fun r hr => ⟨a, r, rfl, .refl hr, trivial⟩

theorem bind {f : α → Parse β} {P : β → Reader → Prop} (hp : Looks p Q)
    (hf : ∀ a r, r.Bare → Q a r → ∃ b r', f a r = .ok b r' ∧ Looked r r' ∧ P b r') :
    Looks (p >>= f) P := by
  intro r hr
  obtain ⟨a, r₁, hok, hlooked, ha⟩ := hp r hr
  obtain ⟨b, r', hok', hlooked', hb⟩ := hf a r₁ hlooked.bare ha
  exact ⟨b, r', then_ok hok hok', hlooked.trans hlooked', hb⟩

theorem skip {f : α → Parse β} {P : β → Reader → Prop} (hp : Looks p Q)
    (hf : ∀ a, Looks (f a) P) : Looks (p >>= f) P :=
  hp.bind fun a r hr _ => hf a r hr

theorem ite {c : Prop} [Decidable c] (hp : Looks p P) (hq : Looks q P) :
    Looks (if c then p else q) P := by
  split
  · exact hp
  · exact hq

theorem weaken (hp : Looks p P) : Looks p fun _ _ => True := by
  intro r hr
  obtain ⟨a, r', hok, hlooked, -⟩ := hp r hr
  exact ⟨a, r', hok, hlooked, trivial⟩

theorem both {p q : Parse Bool} {P Q : Bool → Reader → Prop} (hp : Looks p P) (hq : Looks q Q) :
    Looks (Parse.both p q) fun _ _ => True :=
  hp.skip fun _ => .ite hq.weaken (.pure false)

/-- A step that only looks carries all hints along, and tells something about a bare text. -/
theorem tells {k : Hint} {Q : α → Prop} (hp : Looks p P) (h : ∀ a r, r.Bare → P a r → Q a) :
    Carries k p Q fun _ => k := by
  intro stage r hr hk
  obtain ⟨a, r', hok, hlooked, ha⟩ := hp r hr.bare
  rw [hok]
  exact ⟨hr.looked hlooked, h a r' hlooked.bare ha, hlooked.holds hk⟩

theorem carries {k : Hint} (hp : Looks p P) : Carries k p (fun _ => True) fun _ => k :=
  hp.tells fun _ _ _ _ => trivial

end Looks

/-- A step that only looks, and whose answer does not matter. -/
theorem Carries.look {k : Hint} {p : Parse α} {f : α → Parse β} {Q : α → Reader → Prop}
    {P : β → Prop} {l : β → Hint} (hp : Looks p Q) (hf : ∀ a, Carries k (f a) P l) :
    Carries k (p >>= f) P l :=
  hp.carries.after hf

end Parse

end LoopGuard
