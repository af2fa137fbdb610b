import LoopGuard.Syntax.Parser.Basic

/-!
# What a reading step returns

Properties of everything a step can return. A step that fails returns nothing, so all of these hold
of it; where a step notes a fault and goes on, its answer counts.

Results:
* `Parse.Returns.bind`, `Parse.Returns.loop`: steps in a row, and repeated ones.
* `Parse.Returns.within`: a step in a changed context.
-/

namespace LoopGuard

/-- Whether a repetition is in a state with a property. -/
def Step.Holds (I : σ → Prop) : Step σ → Prop
  | again state | done state => I state

namespace Parse

/-- Whether everything that a step returns has a property. -/
def Returns (m : Parse α) (P : α → Prop) : Prop := ∀ r a r', m r = .ok a r' → P a

namespace Returns

variable {m : Parse α} {P Q : α → Prop}

theorem pure {a : α} (h : P a) : Returns (Pure.pure a) P := by
  rintro r a' r' ⟨⟩
  exact h

theorem bind {f : α → Parse β} {P : β → Prop} (hm : Returns m Q) (hf : ∀ a, Q a → Returns (f a) P) :
    Returns (m >>= f) P := by
  intro r b r' h
  change EStateM.bind m f r = _ at h
  unfold EStateM.bind at h
  split at h
  case h_1 a s hs => exact hf a (hm r a s hs) s b r' h
  case h_2 => cases h

theorem any : Returns m fun _ => True := fun _ _ _ _ => trivial

/-- A step whose answer does not matter. -/
theorem skip {f : α → Parse β} {P : β → Prop} (hf : ∀ a, Returns (f a) P) :
    Returns (m >>= f) P :=
  any.bind fun a _ => hf a

theorem mono (hm : Returns m Q) (h : ∀ a, Q a → P a) : Returns m P :=
  fun r a r' hr => h a (hm r a r' hr)

theorem map {f : α → β} {P : β → Prop} (hm : Returns m fun a => P (f a)) : Returns (f <$> m) P := by
  rw [map_eq_pure_bind]
  exact hm.bind fun _ h => .pure h

theorem throw (d : Diagnostic) : Returns (MonadExcept.throw d) P := by
  rintro r a r' ⟨⟩

theorem ite {c : Prop} [Decidable c] {m' : Parse α} (hm : Returns m P) (hm' : Returns m' P) :
    Returns (if c then m else m') P := by
  split
  · exact hm
  · exact hm'

/-- A step that is taken or not, and what follows in both cases. -/
theorem when {c : Prop} [Decidable c] {n : Parse β} (hm : Returns m P) :
    Returns (if c then n >>= fun _ => m else m) P := ite (skip fun _ => hm) hm

/-- Two steps that are taken or not, and what follows in both cases. -/
theorem when₂ {c : Prop} [Decidable c] {n : Parse β} {n' : β → Parse γ} (hm : Returns m P) :
    Returns (if c then n >>= fun b => n' b >>= fun _ => m else m) P :=
  ite (skip fun _ => skip fun _ => hm) hm

/-- One step or another, and what follows in both cases. -/
theorem either {c : Prop} [Decidable c] {m' : Parse α} {f : α → Parse β} {P : β → Prop}
    (hm : Returns m Q) (hm' : Returns m' Q) (hf : ∀ a, Q a → Returns (f a) P) :
    Returns (if c then m >>= f else m' >>= f) P := ite (hm.bind hf) (hm'.bind hf)

theorem tryCatch {handle : Diagnostic → Parse α} (hm : Returns m P)
    (hh : ∀ d, Returns (handle d) P) : Returns (MonadExcept.tryCatch m handle) P := by
  intro r a r' h
  change EStateM.tryCatch m handle r = _ at h
  unfold EStateM.tryCatch at h
  split at h
  case h_1 d s hs => exact hh d _ a r' h
  case h_2 => exact hm r a r' h

/-- A step whose failure is put off. -/
theorem attempt (hm : Returns m P) :
    Returns (MonadExcept.tryCatch (Except.ok <$> m) fun d => Pure.pure (Except.error d))
      fun result => ∀ a, result = Except.ok a → P a := by
  refine tryCatch (map (hm.mono ?_)) fun d => .pure ?_
  · rintro a h _ ⟨⟩
    exact h
  · rintro a ⟨⟩

theorem within {change : Context → Context} (hm : Returns m P) :
    Returns (Parse.within change m) P := by
  refine skip fun outer => skip fun _ => bind hm.attempt fun result h => skip fun _ => ?_
  cases result with
  | ok a => exact .pure (h a rfl)
  | error d => exact throw d

theorem allowingIn (hm : Returns m P) : Returns (Parse.allowingIn m) P := within hm

theorem refuse (offset : Nat) (fault : Fault) : Returns (Parse.refuse offset fault) P :=
  skip fun _ => skip fun _ => throw _

theorem unexpected (wanted : String) : Returns (Parse.unexpected wanted) P :=
  skip fun _ => skip fun _ => refuse _ _

theorem repeatFor {I : σ → Prop} {step : σ → Parse (Step σ)}
    (hstep : ∀ s, I s → Returns (step s) (Step.Holds I)) :
    ∀ (fuel : Nat) (s : σ), I s → Returns (Parse.repeatFor step fuel s) I
  | 0, s, h => .pure h
  | fuel + 1, s, h => by
    refine bind (hstep s h) fun next hnext => ?_
    cases next with
    | again s' => exact repeatFor hstep fuel s' hnext
    | done s' => exact .pure hnext

theorem loop {I : σ → Prop} {state : σ} {step : σ → Parse (Step σ)} (h : I state)
    (hstep : ∀ s, I s → Returns (step s) (Step.Holds I)) : Returns (Parse.loop state step) I :=
  skip fun _ => repeatFor hstep _ state h

theorem none : Returns (Pure.pure Option.none) fun o => ∀ a ∈ o, P a := by
  apply pure
  intro a ha
  cases ha

theorem some (hm : Returns m P) : Returns (Option.some <$> m) fun o => ∀ a ∈ o, P a := by
  refine map (hm.mono ?_)
  rintro a h _ ⟨⟩
  exact h

theorem cons {ms : Parse (List α)} (hm : Returns m P) (hms : Returns ms fun as => ∀ a ∈ as, P a) :
    Returns (do let a ← m; let as ← ms; Pure.pure (a :: as)) fun as => ∀ a ∈ as, P a :=
  hm.bind fun _ ha => hms.bind fun _ has => .pure (List.forall_mem_cons.2 ⟨ha, has⟩)

end Returns

/-! ## Places -/

theorem spanFrom_returns (lo : Nat) : Returns (spanFrom lo) (· ≠ .synthetic) :=
  .skip fun _ => .pure Span.noConfusion

end Parse

end LoopGuard
