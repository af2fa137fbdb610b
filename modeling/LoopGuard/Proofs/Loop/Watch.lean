import LoopGuard.Proofs.Loop.Preservation

/-!
# Watching a run

A watch over the events of a run: it keeps the loops that have been entered and not been left, and
what has to happen next. A reset call is followed by the entry into its loop, the start of an
iteration by the check of the innermost loop, and a check that answers something true by the exit
from it.

A run *leads* from one state of the watch to another if all its events are in order; this composes
along the operations on runs, and most pieces of a program leave the watch as they found it.

Results:
* `Proc.Leads.bind`, `Run.Leads.handle`: composed runs.
* `Congruence.keeps`, `LoopCongruence.keeps`: leaving the watch as it is, also by a loop.
* `Protector.leads_protectProgram`: all runs of a walked script or module are in order.
-/

namespace LoopGuard

variable {V α β : Type} [Values V] {p : Protector}

/-! ## States of the watch -/

/-- What has to happen next. -/
inductive Phase where
  /-- Nothing in particular. -/
  | free
  /-- The entry into the loop that has just been reset. -/
  | armed (options : ResetOptions)
  /-- The check of the innermost loop. -/
  | due
  /-- The exit from the innermost loop. -/
  | tripped

/-- What is known of a run so far. -/
structure Watch where
  /-- The loops that have been entered and not been left, the innermost one first. -/
  active : List Span
  phase : Phase

/-- Whether the answer is a value that counts as true. -/
def Event.Trips (answer : Except V V) : Prop := ∃ v, answer = .ok v ∧ Values.truthy v = true

namespace Watch

/-- The events that may happen, and what is known then. -/
inductive Step (p : Protector) : Watch → Event V → Watch → Prop where
  | plain {active : List Span} {e : Event V} (h : e.IsPlain) :
    Step p ⟨active, .free⟩ e ⟨active, .free⟩
  | reset {active : List Span} {o : ResetOptions} :
    Step p ⟨active, .free⟩ (.reset o) ⟨active, .armed o⟩
  | entered {active : List Span} {loop : Span} :
    Step p ⟨active, .armed (p.optionsAt loop)⟩ (.entered loop) ⟨loop :: active, .free⟩
  | iterated {active : List Span} {loop : Span} :
    Step p ⟨loop :: active, .free⟩ (.iterated loop) ⟨loop :: active, .due⟩
  | passed {active : List Span} {loop : Span} {answer : Except V V} (h : ¬Event.Trips answer) :
    Step p ⟨loop :: active, .due⟩ (.guarded (p.keyAt loop).text answer) ⟨loop :: active, .free⟩
  | tripped {active : List Span} {loop : Span} {answer : Except V V} (h : Event.Trips answer) :
    Step p ⟨loop :: active, .due⟩ (.guarded (p.keyAt loop).text answer) ⟨loop :: active, .tripped⟩
  | exited {active : List Span} {loop : Span} {ending : Ending V} :
    Step p ⟨loop :: active, .free⟩ (.exited loop ending) ⟨active, .free⟩
  | left {active : List Span} {loop : Span} :
    Step p ⟨loop :: active, .tripped⟩ (.exited loop (.ok ())) ⟨active, .free⟩

/-- What is known after some events. -/
inductive Path (p : Protector) : Watch → List (Event V) → Watch → Prop where
  | nil {w : Watch} : Path p w [] w
  | cons {w w₁ w₂ : Watch} {e : Event V} {τ : List (Event V)} (h : Step p w e w₁)
    (rest : Path p w₁ τ w₂) : Path p w (e :: τ) w₂

namespace Path

theorem append {w w₁ w₂ : Watch} {τ₁ τ₂ : List (Event V)} (h₁ : Path p w τ₁ w₁)
    (h₂ : Path p w₁ τ₂ w₂) : Path p w (τ₁ ++ τ₂) w₂ := by
  induction h₁ with
  | nil => exact h₂
  | cons h _ ih => exact .cons h (ih h₂)

theorem append_iff {w w₂ : Watch} {τ₁ τ₂ : List (Event V)} :
    Path p w (τ₁ ++ τ₂) w₂ ↔ ∃ w₁, Path p w τ₁ w₁ ∧ Path p w₁ τ₂ w₂ := by
  constructor
  · intro h
    induction τ₁ generalizing w with
    | nil => exact ⟨w, .nil, h⟩
    | cons e rest ih =>
      rcases h with - | ⟨he, hrest⟩
      obtain ⟨w₁, h₁, h₂⟩ := ih hrest
      exact ⟨w₁, .cons he h₁, h₂⟩
  · rintro ⟨w₁, h₁, h₂⟩
    exact h₁.append h₂

end Path

end Watch

/-! ## Processes -/

/-- Whether all runs of a process from a state of the watch are in order, and where they lead. -/
def Proc.Leads (p : Protector) (m : Proc (Event V) α) (w : Watch) (Q : α → Watch → Prop) : Prop :=
  ∀ τ r, m.runs τ r → ∃ w', Watch.Path p w τ w' ∧ ∀ a ∈ r, Q a w'

namespace Proc.Leads

variable {w : Watch} {Q : α → Watch → Prop}

theorem mono {m : Proc (Event V) α} {R : α → Watch → Prop} (hm : Leads p m w R)
    (h : ∀ a w', R a w' → Q a w') : Leads p m w Q := by
  intro τ r hr
  obtain ⟨w', hpath, hw⟩ := hm τ r hr
  exact ⟨w', hpath, fun a ha => h a w' (hw a ha)⟩

theorem pure {a : α} (h : Q a w) : Leads (V := V) p (Pure.pure a) w Q := by
  rintro τ r ⟨rfl, hr⟩
  refine ⟨w, .nil, fun b hb => ?_⟩
  rw [hr b hb]
  exact h

theorem halted : Leads (V := V) p Proc.halted w Q := by
  rintro τ r ⟨rfl, rfl⟩
  exact ⟨w, .nil, fun _ ha => by cases ha⟩

theorem emit {e : Event V} {w' : Watch} {Q : Unit → Watch → Prop} (h : Watch.Step p w e w')
    (hQ : Q () w') : Leads p (Proc.emit e) w Q := by
  rintro τ r (⟨rfl, rfl⟩ | rfl)
  · exact ⟨w, .nil, fun _ ha => by cases ha⟩
  · exact ⟨w', .cons h .nil, fun _ _ => hQ⟩

theorem choose {ι : Sort u} {f : ι → Proc (Event V) α} (h : ∀ i, Leads p (f i) w Q) :
    Leads p (Proc.choose f) w Q := by
  rintro τ r (⟨rfl, rfl⟩ | ⟨i, hi⟩)
  · exact ⟨w, .nil, fun _ ha => by cases ha⟩
  · exact h i τ r hi

theorem bind {m : Proc (Event V) α} {f : α → Proc (Event V) β} {R : α → Watch → Prop}
    {Q : β → Watch → Prop} (hm : Leads p m w R) (hf : ∀ a w', R a w' → Leads p (f a) w' Q) :
    Leads p (m >>= f) w Q := by
  rintro τ r (⟨rfl, h⟩ | ⟨a, τ₁, τ₂, h₁, h₂, rfl⟩)
  · obtain ⟨w', hpath, -⟩ := hm τ none h
    exact ⟨w', hpath, fun _ ha => by cases ha⟩
  · obtain ⟨w₁, hpath₁, hw₁⟩ := hm τ₁ _ h₁
    obtain ⟨w₂, hpath₂, hw₂⟩ := hf a w₁ (hw₁ a rfl) τ₂ r h₂
    exact ⟨w₂, hpath₁.append hpath₂, hw₂⟩

end Proc.Leads

/-- Whether a process leaves a watch that waits for nothing as it is. -/
def Proc.Keeps (p : Protector) (m : Proc (Event V) α) : Prop :=
  ∀ active, Proc.Leads p m ⟨active, .free⟩ fun _ w => w = ⟨active, .free⟩

/-- Leaving the watch as it is respects the operations on processes. Nothing is said of the process
on the other side. -/
def Congruence.keeps (p : Protector) (V : Type) [Values V] : Congruence V where
  rel m' _ := Proc.Keeps p m'
  pure _ _ := .pure rfl
  halted _ := .halted
  bind := by
    intro α β m' _ f' _ hm hf active
    refine (hm active).bind ?_
    rintro a _ rfl
    exact hf a active
  choose h _ active := .choose fun i => (h i).elim fun _ hi => hi active
  emit hp _ _ := .emit (.plain hp) rfl

/-! ## Runs -/

/-- Whether all runs from a state of the watch are in order, and where they lead. -/
def Run.Leads (p : Protector) (m : Run V α) (w : Watch) (Q : Except (Abrupt V) α → Watch → Prop) :
    Prop := Proc.Leads p m.run w Q

namespace Run.Leads

variable {w : Watch} {Q : Except (Abrupt V) β → Watch → Prop}
  {R : Except (Abrupt V) α → Watch → Prop}

theorem ofEnding {r : Except (Abrupt V) β} (h : Q r w) : Leads p (Run.ofEnding r) w Q :=
  Proc.Leads.pure h

theorem handle {m : Run V α} {f : Except (Abrupt V) α → Run V β} (hm : Leads p m w R)
    (hf : ∀ r w', R r w' → Leads p (f r) w' Q) : Leads p (m.handle f) w Q := Proc.Leads.bind hm hf

theorem bind {m : Run V α} {f : α → Run V β} (hm : Leads p m w R)
    (hf : ∀ a w', R (.ok a) w' → Leads p (f a) w' Q)
    (he : ∀ e w', R (.error e) w' → Q (.error e) w') : Leads p (m >>= f) w Q := by
  refine Proc.Leads.bind hm fun r w' h => ?_
  cases r with
  | ok a => exact hf a w' h
  | error e => exact .pure (he e w' h)

theorem choose {ι : Type} {f : ι → Run V β} (h : ∀ i, Leads p (f i) w Q) :
    Leads p (Run.choose f) w Q := Proc.Leads.choose h

/-- An event, and what follows it. -/
theorem emit_bind {e : Event V} {f : Unit → Run V β} {w' : Watch} (h : Watch.Step p w e w')
    (hf : Leads p (f ()) w' Q) : Leads p (Run.emit e >>= f) w Q := by
  unfold Leads
  rw [run_emit_bind]
  refine .bind (R := fun _ w'' => w'' = w') (.emit h rfl) ?_
  rintro _ _ rfl
  exact hf

end Run.Leads

/-- Whether a run leaves a watch that waits for nothing as it is, however it ends. -/
def Run.Keeps (p : Protector) (m : Run V α) : Prop := Proc.Keeps p m.run

theorem Run.keeps_ofEnding (r : Except (Abrupt V) α) : Run.Keeps p (Run.ofEnding r) :=
  fun _ => Proc.Leads.pure rfl

section Nodes

variable {inner : Proc (Event V) Unit} (hinner : Proc.Keeps p inner) (purpose : Purpose)
include hinner

theorem Run.keeps_evaluate {n' n : Node} (h : n'.Extends n) :
    Run.Keeps p (Run.evaluate inner purpose n') :=
  show (Congruence.keeps p V).Rel _ (Run.evaluate inner purpose n) from .evaluate hinner purpose h

theorem Run.keeps_evaluate? {n' n : Option Node} (h : Option.Rel Node.Extends n' n) :
    Run.Keeps p (Run.evaluate? inner purpose n') :=
  show (Congruence.keeps p V).Rel _ (Run.evaluate? inner purpose n) from .evaluate? hinner purpose h

theorem Run.keeps_holds {n' n : Node} (h : n'.Extends n) :
    Run.Keeps p (Run.holds inner purpose n') :=
  show (Congruence.keeps p V).Rel _ (Run.holds inner purpose n) from .holds hinner purpose h

theorem Run.keeps_holds? {n' n : Option Node} (h : Option.Rel Node.Extends n' n) :
    Run.Keeps p (Run.holds? inner purpose n') :=
  show (Congruence.keeps p V).Rel _ (Run.holds? inner purpose n) from .holds? hinner purpose h

theorem LoopHead.keeps_leave {head' head : LoopHead} (h : head'.Extends head) (ending : Ending V) :
    Run.Keeps p (head'.leave inner ending) :=
  show (Congruence.keeps p V).Rel _ (head.leave inner ending) from .leave hinner h ending

end Nodes

/-! ## Loops -/

/-- Where the pieces of a loop lead: the watch is as it was, or the check has answered something
true, and then the piece ends in one particular way. -/
def Run.LeavesBy (active : List Span) (out r : Except (Abrupt V) α) (w : Watch) : Prop :=
  w = ⟨active, .free⟩ ∨ (r = out ∧ w = ⟨active, .tripped⟩)

/-- Whether a run is a round of the innermost loop. -/
def Run.IsRound (p : Protector) (active : List Span) (m : Run V Bool) : Prop :=
  Run.Leads p m ⟨active, .free⟩ (Run.LeavesBy active (.ok false))

namespace Run.IsRound

variable {active : List Span}

theorem of_keeps {m : Run V Bool} (h : Keeps p m) : IsRound p active m :=
  Proc.Leads.mono (h active) fun _ _ hw => .inl hw

theorem after {m : Run V α} {f : α → Run V Bool} (hm : Keeps p m)
    (hf : ∀ a, IsRound p active (f a)) : IsRound p active (m >>= f) := by
  refine .bind (hm active) ?_ fun e w h => .inl h
  rintro a _ rfl
  exact hf a

theorem ite {c : Prop} [Decidable c] {m n : Run V Bool} (hm : IsRound p active m)
    (hn : IsRound p active n) : IsRound p active (if c then m else n) := by
  split
  · exact hm
  · exact hn

/-- A round, and what is done before the next one if there is one. -/
theorem andThen {m n : Run V Bool} (hm : IsRound p active m) (hn : Keeps p n) :
    IsRound p active (m >>= fun more => if more then n else Pure.pure false) := by
  refine .bind hm ?_ ?_
  · rintro more w (rfl | ⟨⟨⟩, rfl⟩)
    · exact ite (of_keeps hn) (of_keeps (keeps_ofEnding _))
    · exact .ofEnding (.inr ⟨rfl, rfl⟩)
  · rintro e w (rfl | ⟨⟨⟩, -⟩)
    exact .inl rfl

/-- The rounds of a loop, from first to last. -/
theorem forever {m : Run V Bool} (h : IsRound p active m) :
    Leads p m.forever ⟨active, .free⟩ (LeavesBy active (.ok ())) := by
  refine .choose fun n => ?_
  induction n with
  | zero => exact Proc.Leads.halted
  | succ n ih =>
    refine .bind h ?_ ?_
    · rintro more w (rfl | ⟨⟨⟩, rfl⟩)
      · cases more with
        | false => exact .ofEnding (.inl rfl)
        | true => exact ih
      · exact .ofEnding (.inr ⟨rfl, rfl⟩)
    · rintro e w (rfl | ⟨⟨⟩, -⟩)
      exact .inl rfl

end Run.IsRound

section Loops

variable {inner : Proc (Event V) Unit} {loop : Span} {outer : List Span}

/-- A check that is due lets its loop go on, or throws, or jumps out of it. -/
theorem Stmt.leads_guard (a : Alias) :
    Run.Leads p ((Stmt.guard a (p.keyAt loop)).run inner []) ⟨loop :: outer, .due⟩
      (Run.LeavesBy (loop :: outer) (.error (.jumped .break none))) := by
  rw [Stmt.run_guard]
  refine .choose fun answer => ?_
  by_cases h : Event.Trips answer
  · refine .emit_bind (.tripped h) ?_
    obtain ⟨v, rfl, hv⟩ := h
    rw [Run.ofAnswer, pure_bind, hv]
    exact .ofEnding (.inr ⟨rfl, rfl⟩)
  · refine .emit_bind (.passed h) (.bind (R := fun _ w => w = ⟨loop :: outer, .free⟩) ?_ ?_ ?_)
    · cases answer with
      | ok v => exact .ofEnding rfl
      | error v => exact .ofEnding rfl
    · rintro v _ rfl
      split
      · exact .ofEnding (.inl rfl)
      · exact .ofEnding (.inl rfl)
    · rintro e _ rfl
      exact .inl rfl

/-- A round of a loop with a body that starts with its check. -/
theorem Stmt.isRound_iteration (labels : List String) (a : Alias) {body : Run V Unit}
    (h : Run.Keeps p body) :
    Run.IsRound p (loop :: outer) (Stmt.iteration loop labels
      ((Stmt.guard a (p.keyAt loop)).run inner [] >>= fun _ => body)) := by
  have hbody : Run.Leads p ((Stmt.guard a (p.keyAt loop)).run inner [] >>= fun _ => body)
      ⟨loop :: outer, .due⟩ (Run.LeavesBy (loop :: outer) (.error (.jumped .break none))) := by
    refine .bind (Stmt.leads_guard a) ?_ fun _ _ h => h
    rintro _ _ (rfl | ⟨⟨⟩, -⟩)
    exact Proc.Leads.mono (h _) fun _ _ hw => .inl hw
  refine .emit_bind .iterated (.handle hbody ?_)
  rintro r w (rfl | ⟨rfl, rfl⟩)
  · -- the body has ended by itself, or with a jump that is none of the check's
    cases r with
    | ok _ => exact .ofEnding (.inl rfl)
    | error e =>
      dsimp only
      split
      · exact .ofEnding (.inl rfl)
      · split
        · exact .ofEnding (.inl rfl)
        · exact .ofEnding (.inl rfl)
  · exact .ofEnding (.inr ⟨rfl, rfl⟩)

variable (hinner : Proc.Keeps p inner) {iteration : Run V Bool}
  (hiteration : Run.IsRound p (loop :: outer) iteration)
include hinner hiteration

theorem LoopHead.leads_runOver {left' left right' right : Node} (hl : left'.Extends left)
    (hr : right'.Extends right) :
    Run.Leads p (runOver inner iteration left' right') ⟨loop :: outer, .free⟩
      (Run.LeavesBy (loop :: outer) (.ok ())) := by
  refine .bind (Run.keeps_evaluate hinner .enumeration hr _) ?_ fun _ _ h => .inl h
  rintro _ _ rfl
  refine Run.IsRound.forever (.after (Run.keeps_holds hinner .advance hr) fun _ => .ite ?_ ?_)
  · exact .after (Run.keeps_evaluate hinner .binding hl) fun _ => hiteration
  · exact .of_keeps (Run.keeps_ofEnding _)

theorem LoopHead.leads_run {head' head : LoopHead} (h : head'.Extends head) :
    Run.Leads p (head'.run inner iteration) ⟨loop :: outer, .free⟩
      (Run.LeavesBy (loop :: outer) (.ok ())) := by
  cases h with
  | «while» h =>
    refine Run.IsRound.forever (.after (Run.keeps_holds hinner .value h) fun _ => ?_)
    exact .ite hiteration (.of_keeps (Run.keeps_ofEnding _))
  | doWhile h => exact Run.IsRound.forever (hiteration.andThen (Run.keeps_holds hinner .value h))
  | @«for» _ init _ test _ update hi ht hu =>
    refine .bind (Run.keeps_evaluate? hinner .value hi _) ?_ fun _ _ h => .inl h
    rintro _ _ rfl
    refine Run.IsRound.forever (.after (Run.keeps_holds? hinner .value ht) fun _ => .ite ?_ ?_)
    · refine hiteration.andThen ?_
      show (Congruence.keeps p V).Rel _ (Run.evaluate? inner .value update >>= fun _ => pure true)
      exact .bind (.evaluate? hinner .value hu) fun _ => .pure true
    · exact .of_keeps (Run.keeps_ofEnding _)
  | forIn hl hr | forOf hl hr => exact leads_runOver hinner hiteration hl hr

/-- A loop that has just been reset. -/
theorem Stmt.leads_runLoop {head' head : LoopHead} (h : head'.Extends head) :
    Run.Leads p (Stmt.runLoop inner loop head' iteration) ⟨outer, .armed (p.optionsAt loop)⟩
      fun _ w => w = ⟨outer, .free⟩ := by
  refine .emit_bind .entered (.handle (LoopHead.leads_run hinner hiteration h) ?_)
  rintro ending w (rfl | ⟨rfl, rfl⟩)
  · exact .emit_bind .exited (LoopHead.keeps_leave hinner h ending outer)
  · exact .emit_bind .left (LoopHead.keeps_leave hinner h (.ok ()) outer)

end Loops

/-- A loop behind its reset call, with its check, leaves the watch as it is. -/
def LoopCongruence.keeps (p : Protector) (V : Type) [Values V] : LoopCongruence p V where
  toCongruence := .keeps p V
  loop _ labels hinner hhead hbody _ := Run.Leads.emit_bind .reset
    (Stmt.leads_runLoop hinner (Stmt.isRound_iteration labels p.guardAlias hbody) hhead)

/-- All runs of a walked script or module are in order, and at the end of one nothing is waited for
and all loops have been left. -/
theorem Protector.leads_protectProgram (V : Type) [Values V] {program : Program}
    (hw : program.IsWritten) (ho : WalkEvent.offence? (p.protectProgram program).events = none) :
    Proc.Leads (V := V) p (p.protectProgram program).value.run ⟨[], .free⟩ fun _ w =>
      w = ⟨[], .free⟩ := (LoopCongruence.keeps p V).rel_protectProgram hw ho []

end LoopGuard
