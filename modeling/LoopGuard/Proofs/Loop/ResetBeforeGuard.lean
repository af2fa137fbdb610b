import LoopGuard.Proofs.Loop.Refinement
import LoopGuard.Proofs.Registry.Known

/-!
# Reset before guard

The calls that a walked text makes, performed on a registry. A loop is reset right before it is
entered, guarded first in every iteration, and its key is known whenever it is guarded.

Results:
* `Session.answer_emitted`: calls in the order of a run, performed on any registry.
* `Transformer.walk_resets_before_guards`: the runs of a walked text.
-/

namespace LoopGuard

variable {V : Type}

/-- A call that a registry gets while a script or module runs. -/
inductive RegistryUse where
  /-- A call of the script or module. -/
  | emitted (call : RegistryCall)
  /-- A call of the host. -/
  | host (call : HostCall)

namespace RegistryUse

/-- The call of the script or module, if it is one. -/
def emitted? : RegistryUse → Option RegistryCall
  | emitted call => some call
  | host _ => none

/-- What is asked of the registry. -/
def call : RegistryUse → HostCall
  | emitted (.reset o) => .reset o
  | emitted (.guard key) => .guard key
  | host c => c

end RegistryUse

/-- The call to the registry that an event is. -/
def Event.registryCall? : Event V → Option RegistryCall
  | reset o => some (.reset o)
  | guarded key _ => some (.guard key)
  | _ => none

theorem Event.registryCall?_eq_guard {e : Event V} {key : String} :
    e.registryCall? = some (.guard key) ↔ ∃ answer, e = .guarded key answer := by
  cases e <;> simp [registryCall?]

theorem Event.registryCall?_eq_reset {e : Event V} {o : ResetOptions} :
    e.registryCall? = some (.reset o) ↔ e = .reset o := by
  cases e <;> simp [registryCall?]

/-- A guard among the emitted calls is one among the events, behind the same calls. -/
theorem exists_guarded_of_emitted {τ : List (Event V)} {before behind : List RegistryUse}
    {key : String}
    (h : (before ++ .emitted (.guard key) :: behind).filterMap RegistryUse.emitted? =
      τ.filterMap Event.registryCall?) :
    ∃ τ₁ answer τ₂, τ = τ₁ ++ .guarded key answer :: τ₂ ∧
      before.filterMap RegistryUse.emitted? = τ₁.filterMap Event.registryCall? := by
  have hguard : RegistryUse.emitted? (.emitted (.guard key)) = some (.guard key) := rfl
  rw [List.filterMap_append, List.filterMap_cons_some hguard, eq_comm,
    List.filterMap_eq_append_iff] at h
  obtain ⟨τ₁, τ', rfl, h₁, h'⟩ := h
  obtain ⟨τ₀, e, τ₂, rfl, h₀, he, -⟩ := List.filterMap_eq_cons_iff.1 h'
  obtain ⟨answer, rfl⟩ := Event.registryCall?_eq_guard.1 he
  have hnone := List.filterMap_eq_nil_iff.2 h₀
  refine ⟨τ₁ ++ τ₀, answer, τ₂, by rw [List.append_assoc], ?_⟩
  rw [List.filterMap_append, hnone, List.append_nil, h₁]

/-- If every guard of a run stands behind a reset of its key, no guard finds an unknown key,
whatever else the host does with the registry as long as nothing is forgotten. -/
theorem Session.answer_emitted {τ : List (Event V)}
    (hτ : ∀ τ₁ key answer τ₂, τ = τ₁ ++ .guarded key answer :: τ₂ →
      ∃ o, .reset o ∈ τ₁ ∧ o.key = key)
    (s : Session) {uses before behind : List RegistryUse} {key : String}
    (hemitted : uses.filterMap RegistryUse.emitted? = τ.filterMap Event.registryCall?)
    (hhost : ∀ c, .host c ∈ uses → c.forgets = false)
    (huses : uses = before ++ .emitted (.guard key) :: behind) :
    ∃ b, ((s.after (before.map (·.call))).step (.guard key)).2.answer = .flag b := by
  subst huses
  obtain ⟨τ₁, answer, τ₂, rfl, hbefore⟩ := exists_guarded_of_emitted hemitted
  obtain ⟨o, ho, rfl⟩ := hτ τ₁ _ answer τ₂ rfl
  have hreset : .emitted (.reset o) ∈ before := by
    have hmem : .reset o ∈ τ₁.filterMap Event.registryCall? :=
      List.mem_filterMap.2 ⟨_, ho, Event.registryCall?_eq_reset.2 rfl⟩
    rw [← hbefore] at hmem
    obtain ⟨use, huse, hcall⟩ := List.mem_filterMap.1 hmem
    cases use with
    | host c => cases hcall
    | emitted call =>
      cases hcall
      exact huse
  refine Knows.guard (knows_after_reset (List.mem_map_of_mem hreset) ?_)
  intro c hc
  obtain ⟨use, huse, rfl⟩ := List.mem_map.1 hc
  cases use with
  | host c => exact hhost c (List.mem_append_left _ huse)
  | emitted call => cases call <;> rfl

namespace Transformer

/-- In every run of a walked text a loop is entered right after the reset call with its key, and
every iteration of the innermost loop starts with the only guard call of that iteration, with the
same key. Performed on any registry on which nothing is forgotten meanwhile, no guard call finds its
key unknown. -/
theorem walk_resets_before_guards (V : Type) [Values V] (t : Transformer) (p : ParsedText)
    (hp : ParsedText.ofSource t.code.toArray = .ok p)
    (ho : WalkEvent.offence? (t.walk p).events = none) :
    ∀ (τ : List (Event V)) (r : Option (Ending V)), (t.walk p).value.run.runs τ r →
      (∀ τ₁ loop τ₂, τ = τ₁ ++ .entered loop :: τ₂ →
        τ₁.getLast? = some (.reset (t.protector.optionsAt loop))) ∧
      (∀ τ₁ loop τ₂, τ = τ₁ ++ .iterated loop :: τ₂ →
        (∃ outer, activeLoops τ₁ = loop :: outer) ∧
          ((τ₂ = [] ∧ r = none) ∨
            ∃ answer τ₃, τ₂ = .guarded (t.protector.optionsAt loop).key answer :: τ₃)) ∧
      (∀ τ₁ key answer τ₂, τ = τ₁ ++ .guarded key answer :: τ₂ →
        ∃ loop, τ₁.getLast? = some (.iterated loop) ∧ key = (t.protector.optionsAt loop).key) ∧
      ∀ (s : Session) (uses before behind : List RegistryUse) (key : String),
        uses.filterMap RegistryUse.emitted? = τ.filterMap Event.registryCall? →
        (∀ c, .host c ∈ uses → c.forgets = false) →
        uses = before ++ .emitted (.guard key) :: behind →
        ∃ b, ((s.after (before.map (·.call))).step (.guard key)).2.answer = .flag b := by
  have hw := ParsedText.isWritten_ofSource hp
  intro τ r hr
  obtain ⟨w, hpath, hend⟩ := Protector.leads_protectProgram V hw ho τ r hr
  refine ⟨?_, ?_, ?_, ?_⟩
  · rintro τ₁ loop τ₂ rfl
    exact hpath.before_entered
  · rintro τ₁ loop τ₂ rfl
    obtain ⟨hactive, ⟨rfl, hphase⟩ | hguarded⟩ := hpath.behind_iterated
    · refine ⟨hactive, .inl ⟨rfl, ?_⟩⟩
      -- An iteration without its check is one in which the run broke off: the watch of a finished
      -- run is free.
      cases r with
      | none => rfl
      | some a =>
        rw [hend a rfl] at hphase
        cases hphase
    · exact ⟨hactive, .inr hguarded⟩
  · rintro τ₁ key answer τ₂ rfl
    obtain ⟨loop, -, -, hlast, hkey⟩ := hpath.before_guarded
    exact ⟨loop, hlast, hkey⟩
  · intro s uses before behind key hemitted hhost huses
    refine s.answer_emitted ?_ hemitted hhost huses
    rintro τ₁ key answer τ₂ rfl
    exact hpath.reset_before_guarded

/-- The loop is entered behind its reset call, and its check finds the key on any registry. -/
theorem endlessLoop_known : ∃ p, ParsedText.ofSource endlessLoop.code.toArray = .ok p ∧
    ∃ (τ : List (Event Bool)) (τ₁ τ₂ : List (Event Bool)),
      (endlessLoop.walk p).value.run.runs τ (some (.ok ())) ∧
      τ = τ₁ ++ .entered (.source 0 8) :: τ₂ ∧
      τ₁.getLast? = some (.reset ⟨"a.js:1:0", "a.js", 1, 0⟩) ∧
      ∀ s : Session, ∃ b, ((s.step (.reset ⟨"a.js:1:0", "a.js", 1, 0⟩)).1.step
        (.guard "a.js:1:0")).2.answer = .flag b := by
  obtain ⟨p, hp, ho, hitems⟩ := endlessLoop_read
  have hruns := endlessLoop.protector.runs_endless hitems
  rw [optionsAt_endlessLoop] at hruns
  obtain ⟨hentered, -, -, hanswers⟩ := walk_resets_before_guards Bool endlessLoop p hp ho _ _ hruns
  have hlast := hentered [.reset ⟨"a.js:1:0", "a.js", 1, 0⟩] _ _ rfl
  rw [optionsAt_endlessLoop] at hlast
  refine ⟨p, hp, _, _, _, hruns, rfl, hlast, fun s => ?_⟩
  exact hanswers s [.emitted (.reset ⟨"a.js:1:0", "a.js", 1, 0⟩), .emitted (.guard "a.js:1:0")]
    [.emitted (.reset ⟨"a.js:1:0", "a.js", 1, 0⟩)] [] "a.js:1:0" rfl nofun rfl

end Transformer

end LoopGuard
