import LoopGuard.Proofs.Loop.Watch

/-!
# The order of events

What a watch that lets a run pass says about its events: what stands right before and right behind
the entry into a loop, the start of an iteration and a check, and which loop they belong to.

Results:
* `Watch.Path.before_entered`, `Watch.Path.before_guarded`: what stands before an event.
* `Watch.Path.behind_iterated`, `Watch.Path.behind_tripped`: what stands behind an event.
* `Watch.Path.reset_of_expects`: a loop that has been entered has been reset.
-/

namespace LoopGuard

variable {V : Type} [Values V] {p : Protector}

/-! ## Loops that have been entered and not been left -/

/-- The loops after an event; told those before it, the innermost one first. -/
def Event.loops (active : List Span) : Event V → List Span
  | entered loop => loop :: active
  | exited _ _ => active.tail
  | _ => active

/-- The loops that have been entered and not been left after some events, the innermost one
first. -/
def activeLoops (τ : List (Event V)) : List Span := τ.foldl Event.loops []

namespace Watch

theorem Step.loops_eq {w w' : Watch} {e : Event V} (h : Step p w e w') :
    Event.loops w.active e = w'.active := by
  cases h with
  | plain h => cases e <;> first | rfl | cases h
  | _ => rfl

namespace Path

theorem loops_eq {w w' : Watch} {τ : List (Event V)} (h : Path p w τ w') :
    τ.foldl Event.loops w.active = w'.active := by
  induction h with
  | nil => rfl
  | cons h _ ih => rw [List.foldl_cons, h.loops_eq, ih]

/-- The last event of a path. -/
theorem eq_nil_or_concat {w w' : Watch} {τ : List (Event V)} (h : Path p w τ w') :
    (τ = [] ∧ w' = w) ∨ ∃ τ₀ e w₀, τ = τ₀ ++ [e] ∧ Step p w₀ e w' := by
  rcases List.eq_nil_or_concat τ with rfl | ⟨τ₀, e, rfl⟩
  · rcases h with - | -
    exact .inl ⟨rfl, rfl⟩
  · rw [List.concat_eq_append] at h ⊢
    obtain ⟨w₀, -, hlast⟩ := append_iff.1 h
    rcases hlast with - | ⟨he, hrest⟩
    rcases hrest with - | -
    exact .inr ⟨τ₀, e, w₀, rfl, he⟩

variable {active : List Span} {τ τ₁ τ₂ : List (Event V)} {w : Watch}

/-- A loop is waited for right after its reset call. -/
theorem last_of_armed {o : ResetOptions} (h : Path p ⟨active, .free⟩ τ w)
    (hw : w.phase = .armed o) : τ.getLast? = some (.reset o) := by
  rcases h.eq_nil_or_concat with ⟨rfl, rfl⟩ | ⟨τ₀, e, w₀, rfl, he⟩
  · cases hw
  · cases he <;> cases hw
    exact List.getLast?_concat

/-- A check is waited for right after the start of an iteration of the innermost loop. -/
theorem last_of_due (h : Path p ⟨active, .free⟩ τ w) (hw : w.phase = .due) :
    ∃ loop outer, w.active = loop :: outer ∧ τ.getLast? = some (.iterated loop) := by
  rcases h.eq_nil_or_concat with ⟨rfl, rfl⟩ | ⟨τ₀, e, w₀, rfl, he⟩
  · cases hw
  · cases he <;> cases hw
    exact ⟨_, _, rfl, List.getLast?_concat⟩

theorem before_entered {loop : Span} (h : Path p ⟨active, .free⟩ (τ₁ ++ .entered loop :: τ₂) w) :
    τ₁.getLast? = some (.reset (p.optionsAt loop)) := by
  obtain ⟨w₁, h₁, h₂⟩ := append_iff.1 h
  rcases h₂ with - | ⟨he, -⟩
  cases he with
  | plain h => cases h
  | entered => exact h₁.last_of_armed rfl

/-- An iteration is one of the innermost loop, and its check follows unless the run ends there. -/
theorem behind_iterated {loop : Span}
    (h : Path p ⟨[], .free⟩ (τ₁ ++ .iterated loop :: τ₂) w) :
    (∃ outer, activeLoops τ₁ = loop :: outer) ∧
      ((τ₂ = [] ∧ w.phase = .due) ∨
        ∃ answer τ₃, τ₂ = .guarded (p.keyAt loop).text answer :: τ₃) := by
  obtain ⟨w₁, h₁, h₂⟩ := append_iff.1 h
  rcases h₂ with - | ⟨he, hrest⟩
  cases he with
  | plain h => cases h
  | iterated =>
    refine ⟨⟨_, h₁.loops_eq⟩, ?_⟩
    rcases hrest with - | ⟨hnext, -⟩
    · exact .inl ⟨rfl, rfl⟩
    · cases hnext with
      | passed | tripped => exact .inr ⟨_, _, rfl⟩

theorem before_guarded {key : String} {answer : Except V V}
    (h : Path p ⟨[], .free⟩ (τ₁ ++ .guarded key answer :: τ₂) w) :
    ∃ loop outer, activeLoops τ₁ = loop :: outer ∧ τ₁.getLast? = some (.iterated loop) ∧
      key = (p.keyAt loop).text := by
  obtain ⟨w₁, h₁, h₂⟩ := append_iff.1 h
  rcases h₂ with - | ⟨he, -⟩
  cases he with
  | plain h => cases h
  | passed | tripped =>
    obtain ⟨loop, outer, hactive, hlast⟩ := h₁.last_of_due rfl
    cases hactive
    exact ⟨_, _, h₁.loops_eq, hlast, rfl⟩

/-- A check that answers something true is followed by the exit from the innermost loop, unless the
run ends there. -/
theorem behind_tripped {key : String} {answer : Except V V} (ha : Event.Trips answer)
    (h : Path p ⟨[], .free⟩ (τ₁ ++ .guarded key answer :: τ₂) w) :
    (τ₂ = [] ∧ w.phase = .tripped) ∨
      ∃ loop outer τ₃, activeLoops τ₁ = loop :: outer ∧ τ₂ = .exited loop (.ok ()) :: τ₃ := by
  obtain ⟨w₁, h₁, h₂⟩ := append_iff.1 h
  rcases h₂ with - | ⟨he, hrest⟩
  cases he with
  | plain h => cases h
  | passed h => exact absurd ha h
  | tripped =>
    rcases hrest with - | ⟨hnext, -⟩
    · exact .inl ⟨rfl, rfl⟩
    · cases hnext with
      | left => exact .inr ⟨_, _, _, h₁.loops_eq, rfl⟩

end Path

/-! ## Loops that have been reset -/

/-- Whether the watch has seen a loop being reset: it is in it, or about to enter it. -/
def Expects (p : Protector) (w : Watch) (o : ResetOptions) : Prop :=
  w.phase = .armed o ∨ ∃ loop ∈ w.active, p.optionsAt loop = o

theorem Step.reset_of_expects {w w' : Watch} {e : Event V} {o : ResetOptions} (h : Step p w e w')
    (ho : w'.Expects p o) : e = .reset o ∨ w.Expects p o := by
  unfold Expects at *
  cases h with
  | reset =>
    rcases ho with ⟨⟨⟩⟩ | ho
    · exact .inl rfl
    · exact .inr (.inr ho)
  | entered =>
    rcases ho with ⟨⟨⟩⟩ | ⟨loop, hmem, rfl⟩
    rcases List.mem_cons.1 hmem with rfl | hmem
    · exact .inr (.inl rfl)
    · exact .inr (.inr ⟨loop, hmem, rfl⟩)
  | exited | left =>
    rcases ho with ⟨⟨⟩⟩ | ⟨loop, hmem, rfl⟩
    exact .inr (.inr ⟨loop, List.mem_cons_of_mem _ hmem, rfl⟩)
  | plain | iterated | passed | tripped =>
    rcases ho with ⟨⟨⟩⟩ | ho
    exact .inr (.inr ho)

theorem Path.reset_of_expects {w w' : Watch} {τ : List (Event V)} {o : ResetOptions}
    (h : Path p w τ w') (ho : w'.Expects p o) : .reset o ∈ τ ∨ w.Expects p o := by
  induction h with
  | nil => exact .inr ho
  | cons h _ ih =>
    rcases ih ho with hmem | ho
    · exact .inl (List.mem_cons_of_mem _ hmem)
    · rcases h.reset_of_expects ho with rfl | ho
      · exact .inl List.mem_cons_self
      · exact .inr ho

/-- Before a check its loop has been reset. -/
theorem Path.reset_before_guarded {τ₁ τ₂ : List (Event V)} {key : String} {answer : Except V V}
    {w : Watch} (h : Path p ⟨[], .free⟩ (τ₁ ++ .guarded key answer :: τ₂) w) :
    ∃ o, .reset o ∈ τ₁ ∧ o.key = key := by
  obtain ⟨loop, outer, hactive, -, rfl⟩ := h.before_guarded
  obtain ⟨w₁, h₁, -⟩ := append_iff.1 h
  have hmem : loop ∈ w₁.active := by
    rw [← h₁.loops_eq, show τ₁.foldl Event.loops [] = _ from hactive]
    exact List.mem_cons_self
  rcases h₁.reset_of_expects (.inr ⟨loop, hmem, rfl⟩) with hreset | ⟨⟨⟩⟩ | ⟨_, ⟨⟩, _⟩
  exact ⟨_, hreset, rfl⟩

end Watch

end LoopGuard
