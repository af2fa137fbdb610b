import LoopGuard.Proofs.Execution.Congruence
import LoopGuard.Proofs.Loop.Erasure

/-!
# What the walk does to runs

The runs of a walked tree and of the tree that was walked, piece by piece. A relation between
processes that the operations respect, and that holds of a loop before and after its edits, holds of
whole scripts and modules before and after the walk.

Results:
* `LoopCongruence.rel_protectStmts`, `LoopCongruence.rel_protectStmt`: statements.
* `LoopCongruence.rel_calls`: functions that call each other.
* `LoopCongruence.rel_protectProgram`: scripts and modules.
-/

namespace LoopGuard

variable {V : Type} [Values V] {p : Protector}

/-- A congruence that holds of a loop and the loop behind its reset call, with its check. -/
structure LoopCongruence (p : Protector) (V : Type) [Values V] extends Congruence V where
  loop : ∀ {inner' inner : Proc (Event V) Unit} {head' head : LoopHead} {body' body : Run V Unit}
    (span : Span) (labels : List String), rel inner' inner → head'.Extends head →
    rel body'.run body.run →
    rel (Run.emit (.reset (p.optionsAt span)) >>= fun _ =>
        Stmt.runLoop inner' span head' (Stmt.iteration span labels
          ((Stmt.guard p.guardAlias (p.keyAt span)).run inner' [] >>= fun _ => body'))).run
      (Stmt.runLoop inner span head (Stmt.iteration span labels body)).run

/-! ## Nodes -/

namespace Protector

theorem extends_protectNode {n : Node} (hw : n.IsWritten) :
    (p.protectNode n).Gives WalkEvent.IsGuarded fun n' => n'.Extends n := by
  have hcall : RegistryCall.ofNode? (p.protectNode n).value = none := by
    cases n with
    | call span form callee args =>
      rw [Node.isWritten_call] at hw
      exact RegistryCall.ofNode?_of_span (by rw [span_protectNode]; exact hw.1)
    | _ => rfl
  intro hmet
  exact ⟨erased_protectNode n hw hmet, RegistryCall.ofNode?_of_isWritten hw, hcall⟩

theorem extends_protectNode? {n : Option Node} (hw : ∀ m ∈ n, m.IsWritten) :
    (p.protectNode? n).Gives WalkEvent.IsGuarded fun n' => Option.Rel Node.Extends n' n := by
  cases n with
  | none => exact .pure .none
  | some n => exact .bind (extends_protectNode (hw n rfl)) fun n' hn => .pure (.some hn)

theorem extends_protectHead (h : LoopHead) (hw : h.IsWritten) :
    (p.protectHead h).Gives WalkEvent.IsGuarded fun h' => h'.Extends h := by
  cases h with
  | «while» test => exact .bind (extends_protectNode hw) fun _ ht => .pure (.while ht)
  | doWhile test => exact .bind (extends_protectNode hw) fun _ ht => .pure (.doWhile ht)
  | «for» init test update =>
    rw [LoopHead.isWritten_for] at hw
    refine .bind (extends_protectNode? hw.1) fun init' hi => ?_
    refine .bind (extends_protectNode? hw.2.1) fun test' ht => ?_
    exact .bind (extends_protectNode? hw.2.2) fun update' hu => .pure (.for hi ht hu)
  | forIn left right =>
    rw [LoopHead.isWritten_forIn] at hw
    refine .bind (extends_protectNode hw.1) fun left' hl => ?_
    exact .bind (extends_protectNode hw.2) fun right' hr => .pure (.forIn hl hr)
  | forOf _ left right =>
    rw [LoopHead.isWritten_forOf] at hw
    refine .bind (extends_protectNode hw.1) fun left' hl => ?_
    exact .bind (extends_protectNode hw.2) fun right' hr => .pure (.forOf hl hr)

/-- The functions of a walked tree are those of the tree that was walked, protected. -/
theorem EditsBody.eq_map {bodies bodies' : List Block}
    (h : List.Forall₂ p.EditsBody bodies bodies') :
    bodies' = bodies.map fun b => (p.protectBlock b).value := by
  induction h with
  | nil => rfl
  | cons h _ ih => rw [List.map_cons, h.value, ih]

theorem EditsBody.of_mem {bodies bodies' : List Block} (h : List.Forall₂ p.EditsBody bodies bodies')
    {b : Block} (hb : b ∈ bodies) : p.EditsBody b (p.protectBlock b).value := by
  induction h with
  | nil => cases hb
  | cons h _ ih =>
    cases hb with
    | head => exact h.value ▸ h
    | tail _ hb => exact ih hb

end Protector

/-! ## Statements with their reset calls -/

section Lists

variable (inner : Proc (Event V) Unit) (labels : List String)

/-- Runs a statement behind the reset call it may need. -/
def Stmt.runProtected (r : Option Stmt × Stmt) : Run V Unit := do
  Stmt.run? inner r.1
  r.2.run inner labels

theorem Stmt.runProtected_none (s : Stmt) :
    Stmt.runProtected inner labels (none, s) = s.run inner labels := by
  rw [Stmt.runProtected, Stmt.run?, pure_bind]

theorem Stmt.runAll_sequenced (r : Option Stmt × Stmt) :
    Stmt.runAll inner (Protector.sequenced r.1 r.2) = Stmt.runProtected inner [] r := by
  obtain ⟨reset, s⟩ := r
  cases reset with
  | none =>
    rw [Stmt.runProtected_none, ← Stmt.runAll_singleton]
    rfl
  | some r =>
    show r.run inner [] >>= (fun _ => Stmt.runAll inner [s]) = _
    rw [Stmt.runAll_singleton, Stmt.runProtected, Stmt.run?]

theorem Stmt.run_alone (r : Option Stmt × Stmt) :
    (Protector.alone r.1 r.2).run inner [] = Stmt.runProtected inner [] r := by
  rw [← Stmt.runAll_sequenced]
  obtain ⟨reset, s⟩ := r
  cases reset with
  | none => exact (Stmt.runAll_singleton inner s).symm
  | some r => rfl

end Lists

/-! ## Clauses -/

namespace LoopCongruence

open Protector

/-- Whether clauses of a `switch` run as other ones: which of them are skipped, and what the others
do. -/
structure RelCases (C : LoopCongruence p V) (inner' inner : Proc (Event V) Unit)
    (cases' cases : List Case) : Prop where
  default : cases'.findIdx (·.isDefault) = cases.findIdx (·.isDefault)
  skipped : ∀ otherwise passed, C.Rel (Case.skipped inner' otherwise passed cases')
    (Case.skipped inner otherwise passed cases)
  bodies : ∀ skipped, C.Rel (Case.runFrom inner' skipped cases') (Case.runFrom inner skipped cases)

variable (C : LoopCongruence p V) {inner' inner : Proc (Event V) Unit}

theorem RelCases.nil : RelCases C inner' inner [] [] where
  default := rfl
  skipped _ _ := .pure _
  bodies _ := .pure ()

variable {C}

theorem RelCases.cons (hinner : C.rel inner' inner) {span : Span} {test' test : Option Node}
    {body' body : List Stmt} {rest' rest : List Case} (ht : Option.Rel Node.Extends test' test)
    (hb : C.Rel (Stmt.runAll inner' body') (Stmt.runAll inner body))
    (hr : RelCases C inner' inner rest' rest) :
    RelCases C inner' inner (.mk span test' body' :: rest') (.mk span test body :: rest) where
  default := by
    rw [List.findIdx_cons, List.findIdx_cons, hr.default]
    cases ht with
    | none => rfl
    | some _ => rfl
  skipped otherwise passed := by
    have hrest := hr.skipped otherwise (passed + 1)
    cases ht with
    | none => exact hrest
    | some ht => exact .bind (.holds hinner .comparison ht) fun _ => .ite (.pure _) hrest
  bodies skipped := by
    cases skipped with
    | zero => exact hb.bind fun _ => hr.bodies 0
    | succ skipped => exact hr.bodies skipped

variable (C)

/-! ## The walk -/

mutual

theorem rel_protectBlock (hinner : C.rel inner' inner) : (b : Block) → b.IsWritten →
    (p.protectBlock b).Gives WalkEvent.IsGuarded fun b' => C.Rel (b'.run inner') (b.run inner)
  | .mk _ stmts, hw => by
    rw [Block.isWritten_mk] at hw
    exact .bind (rel_protectStmts hinner .sequence stmts hw) fun stmts' hs => .pure hs

theorem rel_protectBlock? (hinner : C.rel inner' inner) : (b : Option Block) →
    (∀ c ∈ b, c.IsWritten) → (p.protectBlock? b).Gives WalkEvent.IsGuarded fun b' =>
      C.Rel (Block.run? inner' b') (Block.run? inner b)
  | none, _ => .pure (.pure ())
  | some b, hw => .bind (rel_protectBlock hinner b (hw b rfl)) fun _ hb => .pure hb

theorem rel_protectStmts (hinner : C.rel inner' inner) (context : InsertionContext) :
    (stmts : List Stmt) → (∀ s ∈ stmts, s.IsWritten) →
    (p.protectStmts context stmts).Gives WalkEvent.IsGuarded fun stmts' =>
      C.Rel (Stmt.runAll inner' stmts') (Stmt.runAll inner stmts)
  | [], _ => .pure (.pure ())
  | s :: rest, hw => by
    rw [List.forall_mem_cons] at hw
    refine .bind (rel_protectStmt hinner context [] s hw.1) fun r hs => ?_
    refine .bind (rel_protectStmts hinner context rest hw.2) fun rest' hr => .pure ?_
    rw [Stmt.runAll_append, Stmt.runAll_sequenced]
    exact .bind hs fun _ => hr

/-- A statement, and what becomes of it behind the reset call it may need. -/
theorem rel_protectStmt (hinner : C.rel inner' inner) (context : InsertionContext)
    (labels : List String) : (s : Stmt) → s.IsWritten →
    (p.protectStmt context s).Gives WalkEvent.IsGuarded fun r =>
      C.Rel (Stmt.runProtected inner' labels r) (s.run inner labels)
  | .empty _, _ => by
    refine .pure ?_
    rw [Stmt.runProtected_none]
    exact .pure ()
  | .debugger _, _ => by
    refine .pure ?_
    rw [Stmt.runProtected_none]
    exact .emit trivial rfl
  | .jump _ _ _, _ => by
    refine .pure ?_
    rw [Stmt.runProtected_none]
    exact .ofEnding _
  | .expression _ n, hw | .declaration n, hw => by
    refine .bind (extends_protectNode hw.2) fun n' hn => .pure ?_
    rw [Stmt.runProtected_none]
    exact .bind (.evaluate hinner .value hn) fun _ => .pure ()
  | .throw _ n, hw => by
    refine .bind (extends_protectNode hw.2) fun n' hn => .pure ?_
    rw [Stmt.runProtected_none]
    exact .bind (.evaluate hinner .value hn) fun _ => .ofEnding _
  | .block b, hw => by
    refine .bind (rel_protectBlock hinner b hw.2) fun b' hb => .pure ?_
    rw [Stmt.runProtected_none]
    exact hb
  | .return _ value, hw => by
    rw [Stmt.isWritten_return] at hw
    refine .bind (extends_protectNode? hw.2) fun value' hv => .pure ?_
    rw [Stmt.runProtected_none]
    exact .bind (.evaluate? hinner .value hv) fun _ => .ofEnding _
  | .labeled span label body, hw => by
    rw [Stmt.isWritten_labeled] at hw
    have hbody := rel_protectStmt hinner .sequence (label.text :: labels) body hw.2
    -- A loop behind a label is an offence, so the body has no reset call in front of it.
    refine gives_labeled (fun _ => id) context span label (hbody.mono fun r hb hr => ?_)
    rw [Stmt.runProtected, hr, Stmt.run?, pure_bind] at hb
    rw [Stmt.runProtected_none]
    exact .breakable _ hb
  | .withObject span object body, hw => by
    rw [Stmt.isWritten_withObject] at hw
    have hbody := rel_protectStmt hinner .sequence [] body hw.2.2
    refine gives_withObject (fun _ => id) context span ?_
    refine (extends_protectNode hw.2.1).mono fun object' ho => hbody.mono fun r hb hr => ?_
    rw [Stmt.runProtected, hr, Stmt.run?, pure_bind] at hb
    rw [Stmt.runProtected_none]
    exact .bind (.evaluate hinner .value ho) fun _ => hb
  | .branch _ test yes no, hw => by
    rw [Stmt.isWritten_branch] at hw
    refine .bind (extends_protectNode hw.2.1) fun test' ht => ?_
    refine .bind (rel_protectStmt hinner .branchArm [] yes hw.2.2.1) fun r hy => ?_
    refine .bind (rel_protectArm? hinner no hw.2.2.2) fun no' hn => .pure ?_
    rw [← Stmt.run_alone] at hy
    rw [Stmt.runProtected_none]
    exact .bind (.holds hinner .value ht) fun _ => .ite hy hn
  | .switch _ subject cases, hw => by
    rw [Stmt.isWritten_switch] at hw
    refine .bind (extends_protectNode hw.2.1) fun subject' hs => ?_
    refine .bind (rel_protectCases hinner cases hw.2.2) fun cases' hc => .pure ?_
    rw [Stmt.runProtected_none]
    refine .bind (.evaluate hinner .value hs) fun _ => ?_
    rw [hc.default]
    exact .bind (hc.skipped _ _) fun skipped => .breakable none (hc.bodies skipped)
  | .try _ body handler finalizer, hw => by
    rw [Stmt.isWritten_try] at hw
    refine .bind (rel_protectBlock hinner body hw.2.1) fun body' hb => ?_
    refine .bind (rel_protectHandler? hinner handler hw.2.2.1) fun handler' hh => ?_
    refine .bind (rel_protectBlock? hinner finalizer hw.2.2.2) fun finalizer' hf => .pure ?_
    rw [Stmt.runProtected_none]
    exact .handle (hh hb) fun _ => .bind hf fun _ => .ofEnding _
  | .loop span head body, hw => by
    rw [Stmt.isWritten_loop] at hw
    have hbody := rel_protectStmt hinner .sequence [] body hw.2.2
    -- A body that is no block is walked as the only statement of a list, which its block will hold.
    have hstmts : (p.protectStmts .sequence body.unbraced).Gives WalkEvent.IsGuarded fun stmts' =>
        C.Rel (Stmt.runAll inner' stmts') (body.run inner []) := by
      cases body with
      | block b =>
        obtain ⟨bodySpan, stmts⟩ := b
        exact rel_protectStmts hinner .sequence stmts ((Block.isWritten_mk _ _).1 hw.2.2.2)
      | _ =>
        rw [Stmt.unbraced, protectStmts_singleton]
        · refine .bind hbody fun r hb => .pure ?_
          rw [Stmt.runAll_sequenced]
          exact hb
        · rintro _ _ ⟨⟩
    rw [protectStmt_loop]
    refine .emit_bind fun _ => .bind (extends_protectHead head hw.2.1) fun head' hh => ?_
    refine .bind hstmts fun stmts' hs => .pure ?_
    rw [Stmt.runProtected, guarded, Stmt.run?, Stmt.run_reset]
    exact C.loop span labels hinner hh hs

theorem rel_protectArm? (hinner : C.rel inner' inner) : (s : Option Stmt) →
    (∀ t ∈ s, t.IsWritten) → (p.protectArm? s).Gives WalkEvent.IsGuarded fun s' =>
      C.Rel (Stmt.run? inner' s') (Stmt.run? inner s)
  | none, _ => .pure (.pure ())
  | some s, hw => by
    refine .bind (rel_protectStmt hinner .branchArm [] s (hw s rfl)) fun r hs => .pure ?_
    rw [Stmt.run?, Stmt.run_alone]
    exact hs

theorem rel_protectCases (hinner : C.rel inner' inner) : (cases : List Case) →
    (∀ c ∈ cases, c.IsWritten) → (p.protectCases cases).Gives WalkEvent.IsGuarded fun cases' =>
      RelCases C inner' inner cases' cases
  | [], _ => .pure (.nil C)
  | .mk _ test body :: rest, hw => by
    rw [List.forall_mem_cons] at hw
    refine .bind (extends_protectNode? hw.1.1) fun test' ht => ?_
    refine .bind (rel_protectStmts hinner .switchArm body hw.1.2) fun body' hb => ?_
    exact .bind (rel_protectCases hinner rest hw.2) fun rest' hr => .pure (.cons hinner ht hb hr)

theorem rel_protectHandler? (hinner : C.rel inner' inner) : (h : Option Handler) →
    (∀ c ∈ h, c.IsWritten) → (p.protectHandler? h).Gives WalkEvent.IsGuarded fun h' =>
      ∀ {body' body : Run V Unit}, C.Rel body' body →
        C.Rel (Handler.run? inner' body' h') (Handler.run? inner body h)
  | none, _ => .pure id
  | some (.mk _ param block), hw => by
    refine .bind (extends_protectNode? (hw _ rfl).1) fun param' hp => ?_
    refine .bind (rel_protectBlock hinner block (hw _ rfl).2) fun block' hb => .pure ?_
    intro body' body hbody
    refine hbody.handle fun ending => ?_
    split
    · exact .bind (.evaluate? hinner .binding hp) fun _ => hb
    · exact .ofEnding _

end

/-! ## Scripts and modules -/

/-- An element, and what becomes of it in front of other ones. -/
theorem rel_protectItem (hinner : C.rel inner' inner) : (i : Item) → i.IsWritten →
    (p.protectItem i).Gives WalkEvent.IsGuarded fun items' => ∀ {rest' rest : List Item},
      C.Rel (Item.runAll inner' rest') (Item.runAll inner rest) →
        C.Rel (Item.runAll inner' (items' ++ rest')) (Item.runAll inner (i :: rest))
  | .stmt s, hw => by
    refine .bind (C.rel_protectStmt hinner .sequence [] s hw) fun r hs => .pure ?_
    intro rest' rest hr
    rw [Item.runAll_append, Stmt.runAll_sequenced]
    exact .bind hs fun _ => hr
  | .exportDecl _ n, hw | .exportValue _ n, hw | .exportDefault _ n, hw => by
    refine .bind (extends_protectNode hw) fun n' hn => .pure ?_
    exact fun hr => .bind (.evaluate hinner .value hn) fun _ => hr
  | .imports .., _ | .exportList .., _ | .exportAll .., _ => .pure id

theorem rel_protectItems (hinner : C.rel inner' inner) : (items : List Item) →
    (∀ i ∈ items, i.IsWritten) → (p.protectItems items).Gives WalkEvent.IsGuarded fun items' =>
      C.Rel (Item.runAll inner' items') (Item.runAll inner items)
  | [], _ => .pure (.pure ())
  | i :: rest, hw => by
    rw [List.forall_mem_cons] at hw
    refine .bind (C.rel_protectItem hinner i hw.1) fun items' hi => ?_
    exact .bind (rel_protectItems hinner rest hw.2) fun rest' hr => .pure (hi hr)

/-- A call of a function: each function of the tree that was walked has its counterpart. -/
theorem rel_call (hinner : C.rel inner' inner) {bodies bodies' : List Block}
    (h : List.Forall₂ p.EditsBody bodies bodies') :
    C.rel (Block.call inner' bodies') (Block.call inner bodies) := by
  have hcall (b : Block) (hb : b ∈ bodies) : C.rel (do
      Proc.emit (.called (p.protectBlock b).value)
      let ending ← ((p.protectBlock b).value.run inner').run
      Proc.emit (.finished ending)) (do
      Proc.emit (.called b)
      let ending ← (b.run inner).run
      Proc.emit (.finished ending)) := by
    obtain ⟨-, hw, ho⟩ := EditsBody.of_mem h hb
    refine C.bind (C.emit trivial ?_) fun _ => ?_
    · rw [Event.erased?, erased_protectBlock b hw ho]
    · exact C.bind (C.rel_protectBlock hinner b hw ho) fun _ => C.emit trivial rfl
  rw [EditsBody.eq_map h]
  refine C.choose ?_ ?_
  · rintro ⟨b', hb'⟩
    obtain ⟨b, hb, rfl⟩ := List.mem_map.1 hb'
    exact ⟨⟨b, hb⟩, hcall b hb⟩
  · rintro ⟨b, hb⟩
    exact ⟨⟨_, List.mem_map_of_mem hb⟩, hcall b hb⟩

/-- Functions that call each other, by induction on the depth of the calls. -/
theorem rel_calls {bodies bodies' : List Block} (h : List.Forall₂ p.EditsBody bodies bodies')
    (depth : Nat) : C.rel (Block.calls bodies' depth) (Block.calls bodies depth) := by
  induction depth with
  | zero => exact C.pure ()
  | succ depth ih => exact C.star (C.rel_call ih h)

theorem rel_protectProgram {program : Program} (hw : program.IsWritten)
    (ho : WalkEvent.offence? (p.protectProgram program).events = none) :
    C.rel (p.protectProgram program).value.run program.run := by
  have hmet := WalkEvent.offence?_eq_none_iff.1 ho
  have hbodies := (protectProgram_covers hw hmet).bodies
  have hitems {inner' inner : Proc (Event V) Unit} (hinner : C.rel inner' inner) :
      (p.protectProgram program).Gives WalkEvent.IsGuarded fun program' =>
        C.Rel (Item.runAll inner' program'.items) (Item.runAll inner program.items) :=
    .bind (C.rel_protectItems hinner program.items hw) fun _ hi => .pure hi
  refine C.chooseEach fun depth => C.bind (hitems (C.rel_calls hbodies depth) hmet) fun _ => ?_
  exact C.bind (C.rel_calls hbodies depth) fun _ => C.pure _

end LoopCongruence

end LoopGuard
