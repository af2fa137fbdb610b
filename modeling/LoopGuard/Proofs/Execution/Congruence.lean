import LoopGuard.Proofs.Execution.Statement
import LoopGuard.Proofs.Loop.Erased

/-!
# Comparing runs

A relation between processes that the operations on processes respect. It is enough to know that it
holds of their pieces to know it of the runs of two programs, one of which has something inserted
into its nodes.

Results:
* `Congruence.Rel.bind`, `Congruence.Rel.handle`: composed runs.
* `Congruence.Rel.evaluate`, `Congruence.Rel.holds`: nodes.
* `Congruence.Rel.leave`, `Congruence.Rel.head`: pieces of loops.
-/

namespace LoopGuard

/-! ## Events -/

namespace Event

/-- The event without what is inserted, if it is no inserted call. -/
def erased? : Event V → Option (Event V)
  | evaluating purpose n => some (.evaluating purpose n.erased)
  | called b => some (.called b.erased)
  | reset _ | guarded _ _ => none
  | e => some e

/-- Whether the event has nothing to do with loops. -/
def IsPlain : Event V → Prop
  | evaluating _ _ | answered _ | called _ | finished _ | debugged _ => True
  | _ => False

end Event

/-! ## Nodes with insertions -/

/-- Whether a node, of which nothing is known, is another one with insertions. -/
structure Node.Extends (n' n : Node) : Prop where
  erased : n'.erased = n
  call : RegistryCall.ofNode? n = none
  call' : RegistryCall.ofNode? n' = none

/-- Whether the nodes of a head are those of another one with insertions. -/
inductive LoopHead.Extends : LoopHead → LoopHead → Prop where
  | while {n' n : Node} (h : n'.Extends n) : Extends (.while n') (.while n)
  | doWhile {n' n : Node} (h : n'.Extends n) : Extends (.doWhile n') (.doWhile n)
  | for {init' init test' test update' update : Option Node}
    (hi : Option.Rel Node.Extends init' init) (ht : Option.Rel Node.Extends test' test)
    (hu : Option.Rel Node.Extends update' update) :
    Extends (.for init' test' update') (.for init test update)
  | forIn {left' left right' right : Node} (hl : left'.Extends left) (hr : right'.Extends right) :
    Extends (.forIn left' right') (.forIn left right)
  | forOf {isAwait : Bool} {left' left right' right : Node} (hl : left'.Extends left)
    (hr : right'.Extends right) : Extends (.forOf isAwait left' right') (.forOf isAwait left right)

/-! ## Congruences -/

/-- A relation between processes that the operations respect. Of a choice it is enough that each
process has a counterpart among those of the other choice. -/
structure Congruence (V : Type) where
  rel : ∀ {α : Type}, Proc (Event V) α → Proc (Event V) α → Prop
  pure : ∀ {α : Type} (a : α), rel (Pure.pure a) (Pure.pure a)
  halted : ∀ {α : Type}, rel (Proc.halted (α := α)) Proc.halted
  bind : ∀ {α β : Type} {m' m : Proc (Event V) α} {f' f : α → Proc (Event V) β},
    rel m' m → (∀ a, rel (f' a) (f a)) → rel (m' >>= f') (m >>= f)
  choose : ∀ {ι' ι α : Type} {f' : ι' → Proc (Event V) α} {f : ι → Proc (Event V) α},
    (∀ i', ∃ i, rel (f' i') (f i)) → (∀ i, ∃ i', rel (f' i') (f i)) →
    rel (Proc.choose f') (Proc.choose f)
  emit : ∀ {e' e : Event V}, e'.IsPlain → e'.erased? = some e → rel (Proc.emit e') (Proc.emit e)

namespace Congruence

variable {V α β : Type} {C : Congruence V}

theorem chooseEach (C : Congruence V) {ι : Type} {f' f : ι → Proc (Event V) α}
    (h : ∀ i, C.rel (f' i) (f i)) : C.rel (Proc.choose f') (Proc.choose f) :=
  C.choose (fun i => ⟨i, h i⟩) fun i => ⟨i, h i⟩

theorem star (C : Congruence V) {m' m : Proc (Event V) Unit} (h : C.rel m' m) :
    C.rel m'.star m.star := by
  refine C.chooseEach fun n => ?_
  induction n with
  | zero => exact C.pure ()
  | succ n ih => exact C.bind h fun _ => ih

/-- The relation between runs. -/
def Rel (C : Congruence V) (m' m : Run V α) : Prop := C.rel m'.run m.run

namespace Rel

theorem pure (a : α) : C.Rel (Pure.pure a) (Pure.pure a) := C.pure _

theorem ofEnding (r : Except (Abrupt V) α) : C.Rel (Run.ofEnding r) (Run.ofEnding r) := C.pure r

theorem handle {m' m : Run V α} {f' f : Except (Abrupt V) α → Run V β} (hm : C.Rel m' m)
    (hf : ∀ r, C.Rel (f' r) (f r)) : C.Rel (m'.handle f') (m.handle f) := C.bind hm hf

theorem bind {m' m : Run V α} {f' f : α → Run V β} (hm : C.Rel m' m)
    (hf : ∀ a, C.Rel (f' a) (f a)) : C.Rel (m' >>= f') (m >>= f) := by
  refine C.bind hm fun r => ?_
  cases r with
  | ok a => exact hf a
  | error e => exact C.pure _

theorem choose {ι : Type} {f' f : ι → Run V α} (h : ∀ i, C.Rel (f' i) (f i)) :
    C.Rel (Run.choose f') (Run.choose f) := C.chooseEach h

theorem lift {m' m : Proc (Event V) α} (h : C.rel m' m) :
    C.Rel (ExceptT.lift m' : Run V α) (ExceptT.lift m) := C.bind h fun _ => C.pure _

theorem emit {e' e : Event V} (hp : e'.IsPlain) (he : e'.erased? = some e) :
    C.Rel (Run.emit e') (Run.emit e) := lift (C.emit hp he)

theorem ite {c : Prop} [Decidable c] {m' m n' n : Run V α} (hm : C.Rel m' m) (hn : C.Rel n' n) :
    C.Rel (if c then m' else n') (if c then m else n) := by
  split
  · exact hm
  · exact hn

theorem breakable (target : Option String) {m' m : Run V Unit} (h : C.Rel m' m) :
    C.Rel (m'.breakable target) (m.breakable target) := by
  refine h.handle fun r => ?_
  cases r with
  | ok _ => exact pure _
  | error a => exact ite (pure _) (ofEnding _)

theorem forever {m' m : Run V Bool} (h : C.Rel m' m) : C.Rel m'.forever m.forever := by
  refine choose fun n => ?_
  induction n with
  | zero => exact C.halted
  | succ n ih => exact h.bind fun _ => ite ih (pure _)

theorem ofAnswer (answer : Except V V) : C.Rel (Run.ofAnswer answer) (Run.ofAnswer answer) := by
  cases answer with
  | ok v => exact pure v
  | error v => exact ofEnding _

/-! ### Nodes -/

section Nodes

variable [Values V] {inner' inner : Proc (Event V) Unit} (hinner : C.rel inner' inner)
  (purpose : Purpose)
include hinner

theorem evaluate {n' n : Node} (h : n'.Extends n) :
    C.Rel (Run.evaluate inner' purpose n') (Run.evaluate inner purpose n) := by
  unfold Run.evaluate
  rw [h.call, h.call']
  refine bind (emit trivial (by rw [Event.erased?, h.erased])) fun _ => ?_
  refine bind (lift hinner) fun _ => choose fun answer => ?_
  exact bind (emit trivial rfl) fun _ => ofAnswer answer

theorem evaluate? {n' n : Option Node} (h : Option.Rel Node.Extends n' n) :
    C.Rel (Run.evaluate? inner' purpose n') (Run.evaluate? inner purpose n) := by
  cases h with
  | none => exact pure _
  | some h => exact bind (evaluate hinner purpose h) fun _ => pure _

theorem holds {n' n : Node} (h : n'.Extends n) :
    C.Rel (Run.holds inner' purpose n') (Run.holds inner purpose n) :=
  bind (evaluate hinner purpose h) fun _ => pure _

theorem holds? {n' n : Option Node} (h : Option.Rel Node.Extends n' n) :
    C.Rel (Run.holds? inner' purpose n') (Run.holds? inner purpose n) := by
  cases h with
  | none => exact pure _
  | some h => exact holds hinner purpose h

end Nodes

/-! ### Pieces of loops -/

section Loops

variable [Values V] {inner' inner : Proc (Event V) Unit} (hinner : C.rel inner' inner)
include hinner

theorem leave {head' head : LoopHead} (h : head'.Extends head) (ending : Ending V) :
    C.Rel (head'.leave inner' ending) (head.leave inner ending) := by
  cases h with
  | forOf hl hr =>
    refine handle (evaluate hinner .close hr) fun closing => ?_
    split
    · exact ofEnding _
    · exact ofEnding _
    · exact ofEnding _
  | _ => exact ofEnding ending

variable {iteration' iteration : Run V Bool} (hiteration : C.Rel iteration' iteration)
include hiteration

theorem elements {left' left right' right : Node} (hl : left'.Extends left)
    (hr : right'.Extends right) : C.Rel (LoopHead.runOver inner' iteration' left' right')
      (LoopHead.runOver inner iteration left right) := by
  refine bind (evaluate hinner .enumeration hr) fun _ => forever ?_
  refine bind (holds hinner .advance hr) fun _ => ite ?_ (pure _)
  exact bind (evaluate hinner .binding hl) fun _ => hiteration

theorem head {head' head : LoopHead} (h : head'.Extends head) :
    C.Rel (head'.run inner' iteration') (head.run inner iteration) := by
  cases h with
  | «while» h => exact forever (bind (holds hinner .value h) fun _ => ite hiteration (pure _))
  | doWhile h => exact forever (hiteration.bind fun _ => ite (holds hinner .value h) (pure _))
  | «for» hi ht hu =>
    refine bind (evaluate? hinner .value hi) fun _ => forever ?_
    refine bind (holds? hinner .value ht) fun _ => ite (hiteration.bind fun _ => ?_) (pure _)
    exact ite (bind (evaluate? hinner .value hu) fun _ => pure _) (pure _)
  | forIn hl hr | forOf hl hr => exact elements hinner hiteration hl hr

end Loops

end Rel

end Congruence

end LoopGuard
