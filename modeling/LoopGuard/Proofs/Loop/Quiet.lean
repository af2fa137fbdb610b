import LoopGuard.Proofs.Loop.Preservation

/-!
# Quiet runs

What is seen of the runs in which every inserted check answers something that does not count as
true, when the inserted calls are left out of them, and the inserted statements out of the functions
that they create and call. A process *shows* another one if this is what is seen of it.

Results:
* `Stmt.shows_guard`: a check shows nothing.
* `Congruence.shows`, `LoopCongruence.shows`: showing is a congruence, also of loops.
* `Protector.shows_protectProgram`: a walked script or module shows the one that was walked.
-/

namespace LoopGuard

variable {V α β : Type} [Values V]

/-- Whether the event is no check that answers something true, and none that fails. -/
def Event.IsQuiet : Event V → Prop
  | guarded _ answer => ∃ v, answer = .ok v ∧ Values.truthy v = false
  | _ => True

theorem Event.IsPlain.isQuiet {e : Event V} (h : e.IsPlain) : e.IsQuiet := by
  cases e with
  | guarded => cases h
  | _ => trivial

/-! ## Processes and runs -/

/-- Whether a process is what is seen of the quiet runs of another one. -/
def Proc.Shows (m' m : Proc (Event V) α) : Prop := m'.seen Event.IsQuiet Event.erased? = m

/-- Two families in which each process has a counterpart in the other one. -/
theorem Proc.Shows.choose {ι' ι : Type} {f' : ι' → Proc (Event V) α} {f : ι → Proc (Event V) α}
    (hto : ∀ i', ∃ i, Shows (f' i') (f i)) (hfrom : ∀ i, ∃ i', Shows (f' i') (f i)) :
    Shows (Proc.choose f') (Proc.choose f) := by
  rw [Shows, seen_choose]
  refine ext fun τ r => or_congr_right ⟨?_, ?_⟩
  · rintro ⟨i', h⟩
    obtain ⟨i, hi⟩ := hto i'
    exact ⟨i, by rwa [← hi]⟩
  · rintro ⟨i, h⟩
    obtain ⟨i', hi⟩ := hfrom i
    exact ⟨i', by rwa [← hi] at h⟩

/-- Showing respects the operations on processes. -/
def Congruence.shows (V : Type) [Values V] : Congruence V where
  rel := Proc.Shows
  pure := Proc.seen_pure
  halted := Proc.seen_halted
  bind := by
    intro α β m' m f' f hm hf
    rw [Proc.Shows, Proc.seen_bind, hm]
    congr
    funext a
    exact hf a
  choose := Proc.Shows.choose
  emit hp he := Proc.seen_emit hp.isQuiet he

/-- Whether a run is what is seen of the quiet runs of another one. -/
abbrev Run.Shows (m' m : Run V α) : Prop := (Congruence.shows V).Rel m' m

namespace Run.Shows

/-- An event of a loop. -/
theorem emit {e : Event V} (hq : e.IsQuiet) (he : e.erased? = some e) :
    Shows (Run.emit e) (Run.emit e) := Congruence.Rel.lift (Proc.seen_emit hq he)

/-- An inserted call that is not noticed. -/
theorem hidden {e' : Event V} (hq : e'.IsQuiet) (he : e'.erased? = none) {m' m : Run V α}
    (h : Shows m' m) : Shows (Run.emit e' >>= fun _ => m') m := by
  show Proc.seen _ _ (Run.emit e' >>= fun _ => m').run = m.run
  rw [run_emit_bind, Proc.seen_bind, Proc.seen_emit_hidden hq he, pure_bind]
  exact h

/-- A piece that shows nothing, in front of another one. -/
theorem after {m' : Run V Unit} {n' n : Run V α} (hm : Shows m' (Pure.pure ())) (hn : Shows n' n) :
    Shows (m' >>= fun _ => n') n := by
  have h := hm.bind fun _ => hn
  rwa [pure_bind] at h

end Run.Shows

/-! ## Inserted statements -/

section Inserted

variable (inner : Proc (Event V) Unit) (labels : List String) (a : Alias)

/-- A check with an answer that does not count as true shows nothing, and no other answer is
quiet. -/
theorem Stmt.shows_guard (key : LoopKey) :
    Run.Shows ((Stmt.guard a key).run inner labels) (pure ()) := by
  have hundefined : Event.IsQuiet (V := V) (.guarded key.text (.ok Values.undefined)) :=
    ⟨_, rfl, Values.truthy_undefined⟩
  rw [Stmt.run_guard]
  refine Eq.trans (Proc.seen_choose _) (Proc.choose_eq (.ok Values.undefined) ?_ fun answer => ?_)
  · refine Run.Shows.hidden hundefined rfl ?_
    rw [Run.ofAnswer, pure_bind, Values.truthy_undefined]
    exact .pure ()
  · by_cases hq : Event.IsQuiet (.guarded key.text answer)
    · left
      refine Run.Shows.hidden hq rfl ?_
      obtain ⟨v, rfl, hv⟩ := hq
      rw [Run.ofAnswer, pure_bind, hv]
      exact .pure ()
    · right
      rw [Run.run_emit_bind, Proc.seen_bind, Proc.seen_emit_refused hq, Proc.halted_bind]

end Inserted

/-! ## Loops -/

theorem Stmt.shows_iteration (span : Span) (labels : List String) {body' body : Run V Unit}
    (h : Run.Shows body' body) :
    Run.Shows (Stmt.iteration span labels body') (Stmt.iteration span labels body) := by
  refine .bind (Run.Shows.emit trivial rfl) fun _ => h.handle fun r => ?_
  cases r with
  | ok _ => exact .pure _
  | error a => exact .ite (.pure _) (.ite (.pure _) (.ofEnding _))

theorem Stmt.shows_runLoop {inner' inner : Proc (Event V) Unit} (hinner : Proc.Shows inner' inner)
    {iteration' iteration : Run V Bool} (hiteration : Run.Shows iteration' iteration) (span : Span)
    {head' head : LoopHead} (h : head'.Extends head) :
    Run.Shows (Stmt.runLoop inner' span head' iteration')
      (Stmt.runLoop inner span head iteration) := by
  refine .bind (Run.Shows.emit trivial rfl) fun _ => ?_
  refine .handle (.head hinner hiteration h) fun ending => ?_
  exact .bind (Run.Shows.emit trivial rfl) fun _ => .leave hinner h ending

/-- A loop behind its reset call, with its check, shows the loop. -/
def LoopCongruence.shows (p : Protector) (V : Type) [Values V] : LoopCongruence p V where
  toCongruence := .shows V
  loop := by
    intro inner' inner head' head body' body span labels hinner hhead hbody
    have hreset : Event.IsQuiet (V := V) (.reset (p.optionsAt span)) := trivial
    refine Run.Shows.hidden hreset rfl (Stmt.shows_runLoop hinner ?_ span hhead)
    exact Stmt.shows_iteration span labels (.after (Stmt.shows_guard inner' [] _ _) hbody)

/-- The quiet runs of a walked script or module show the runs of the one that was walked. -/
theorem Protector.shows_protectProgram (V : Type) [Values V] {p : Protector} {program : Program}
    (hw : program.IsWritten) (ho : WalkEvent.offence? (p.protectProgram program).events = none) :
    Proc.Shows (V := V) (p.protectProgram program).value.run program.run :=
  (LoopCongruence.shows p V).rel_protectProgram hw ho

end LoopGuard
