import LoopGuard.Proofs.Loop.Coverage
import LoopGuard.Proofs.Syntax.TextOrder

/-!
# Reset calls in the order of the text

The walk leaves every loop where it is written. So in the order of the text the reset calls of a
tree are those of its loops, also where the walk came to the loops in another order.

Results:
* `Protector.protectHead_resets`: the head of a loop around its body.
* `Protector.protectProgram_resets`: the reset calls of a script or module.
-/

namespace LoopGuard

namespace Protector

variable {p : Protector}

/-- The reset call of a loop of the tree that is walked. -/
def resetOf (p : Protector) (l : LoopSeat) : Stmt :=
  .reset p.guardAlias (p.siteOf l).resetOptions

/-- Whether the calls among some parts are the reset calls of the loops among others, one behind the
other as these are. -/
def Resets (p : Protector) (old new : List Part) : Prop :=
  Part.calls new = (old.filterMap Part.loop?).map p.resetOf

namespace Resets

variable {old new old₁ old₂ new₁ new₂ : List Part}

theorem nil : p.Resets [] [] := rfl

theorem append (h₁ : p.Resets old₁ new₁) (h₂ : p.Resets old₂ new₂) :
    p.Resets (old₁ ++ old₂) (new₁ ++ new₂) := by
  unfold Resets at *
  rw [Part.calls_append, List.filterMap_append, List.map_append, h₁, h₂]

/-- Parts that are listed under a condition. -/
theorem ite {c : Bool} (h : p.Resets old new) :
    p.Resets (if c then old else []) (if c then new else []) := by
  split
  · exact h
  · exact nil

theorem node {n n' : Node} (h : p.Resets old new) : p.Resets (.node n :: old) (.node n' :: new) := h

theorem consOld {slot : Slot} {before : Option Stmt} {s : Stmt} (hs : s.isLoop = false) :
    p.Resets (.stmt ⟨slot, before, s⟩ :: old) new ↔ p.Resets old new := by
  have hloop : Part.loop? (.stmt ⟨slot, before, s⟩) = none := by
    cases s <;> first | rfl | cases hs
  unfold Resets
  rw [List.filterMap_cons_none hloop]

theorem consNew {slot : Slot} {before : Option Stmt} {s : Stmt} (hs : s.isMadeCall = false) :
    p.Resets old (.stmt ⟨slot, before, s⟩ :: new) ↔ p.Resets old new := by
  unfold Resets
  rw [Part.calls_stmt hs]

end Resets

/-- Whether a statement and its reset call, if it needs one, are what becomes of a statement that
fills a slot. -/
def ResetsStmt (p : Protector) (slot : Slot) (s : Stmt) (r : Option Stmt × Stmt) : Prop :=
  ∀ (before : Option Stmt) (slot' : Slot) (before' : Option Stmt),
    p.Resets (.stmt ⟨slot, before, s⟩ :: s.inText)
      (Stmt.allInText slot' before' (sequenced r.1 r.2))

namespace ResetsStmt

variable {slot : Slot} {s s' : Stmt} {r : Option Stmt × Stmt}

/-- A statement that needs no reset call. -/
theorem plain (hs : s.isLoop = false) (hs' : s'.isMadeCall = false)
    (h : p.Resets s.inText s'.inText) : p.ResetsStmt slot s (none, s') := by
  intro before slot' before'
  rw [Resets.consOld hs]
  show p.Resets s.inText (.stmt ⟨slot', before', s'⟩ :: s'.inText ++ [])
  rw [List.append_nil, Resets.consNew hs']
  exact h

/-- A statement that was found to need none. -/
theorem alone_of_none (h : p.ResetsStmt slot s r) (hr : r.1 = none) (before : Option Stmt)
    (slot' : Slot) (before' : Option Stmt) :
    p.Resets (.stmt ⟨slot, before, s⟩ :: s.inText) (.stmt ⟨slot', before', r.2⟩ :: r.2.inText) := by
  have h := h before slot' before'
  rw [hr] at h
  rwa [show Stmt.allInText slot' before' (sequenced none r.2) =
    .stmt ⟨slot', before', r.2⟩ :: r.2.inText ++ [] from rfl, List.append_nil] at h

/-- An arm of an `if`, which may become a block. -/
theorem arm (h : p.ResetsStmt slot s r) (before before' : Option Stmt) :
    p.Resets (.stmt ⟨slot, before, s⟩ :: s.inText)
      (.stmt ⟨.arm, before', alone r.1 r.2⟩ :: (alone r.1 r.2).inText) := by
  obtain ⟨reset, s'⟩ := r
  cases reset with
  | none => exact h.alone_of_none rfl before .arm before'
  | some c =>
    rw [alone, Resets.consNew rfl]
    exact h before .list none

end ResetsStmt

/-! ## What is inserted -/

/-- There are no calls among the parts of an alias. -/
theorem calls_alias (a : Alias) : Part.calls a.node.inText = [] := by
  suffices h : ∀ (properties : List String) (n : Node), Part.calls n.inText = [] →
      Part.calls (properties.foldl Node.madeMember n).inText = [] from
    h a.properties (.madeName a.root) rfl
  intro properties
  induction properties with
  | nil => exact fun _ h => h
  | cons w rest ih =>
    refine fun n h => ih _ ?_
    simp [Node.madeMember, Node.madeName, Node.inText, h]

theorem calls_guard (a : Alias) (key : LoopKey) : Part.calls (Stmt.guard a key).inText = [] := by
  simp [Stmt.guard, Node.madeCall, Node.madeMember, Node.madeName, Node.madeString, Node.inText,
    Node.allInText, Stmt.inText, Stmt.inText?, CallForm.writesArgs, calls_alias]
  rfl

/-- A loop with its two edits. -/
theorem ResetsStmt.loop {slot : Slot} {span : Span} {head head' : LoopHead} {body : Stmt}
    {stmts : List Stmt}
    (hhead : ∀ body body', p.Resets body body' → p.Resets (head.around body) (head'.around body'))
    (hstmts : p.Resets (.stmt ⟨.loopBody, none, body⟩ :: body.inText)
      (Stmt.allInText .list (some (.guard p.guardAlias (p.site span head slot.context).key))
        stmts)) :
    p.ResetsStmt slot (.loop span head body)
      (p.guarded (p.site span head slot.context) span head' body.braces stmts) := by
  intro before slot' before'
  have hblock : p.Resets (.stmt ⟨.loopBody, none, body⟩ :: body.inText)
      (.stmt ⟨.loopBody, none, .block (.mk body.braces
          (.guard p.guardAlias (p.site span head slot.context).key :: stmts))⟩ ::
        (Stmt.block (.mk body.braces
          (.guard p.guardAlias (p.site span head slot.context).key :: stmts))).inText) := by
    rw [Resets.consNew rfl]
    unfold Resets at *
    rw [← hstmts]
    show Part.calls (.stmt _ :: (Stmt.guard _ _).inText ++ Stmt.allInText _ _ stmts) = _
    rw [List.cons_append, Part.calls_stmt rfl, Part.calls_append, calls_guard, List.nil_append]
  have hinside := hhead _ _ hblock
  unfold Resets at hinside ⊢
  have hold : (.stmt ⟨slot, before, .loop span head body⟩ ::
        (Stmt.loop span head body).inText).filterMap Part.loop? =
      ⟨slot, before, span, head, body⟩ :: (Stmt.loop span head body).inText.filterMap Part.loop? :=
    rfl
  rw [hold, List.map_cons, Stmt.inText, ← hinside]
  simp [sequenced, guarded, Stmt.allInText, Stmt.inText, Stmt.reset, Part.calls, Part.stmt?,
    Stmt.isMadeCall, resetOf, siteOf]

/-! ## The walk -/

mutual

theorem protectNode_resets : (n : Node) → n.IsWritten →
    (p.protectNode n).Gives WalkEvent.IsGuarded fun n' =>
      p.Resets (.node n :: n.inText) (.node n' :: n'.inText)
  | .leaf _ _, _ => .pure Resets.nil.node
  | .unary _ _ arg, hw => by
    rw [Node.isWritten_unary] at hw
    exact .bind (protectNode_resets arg hw) fun arg' ha => .pure ha.node
  | .binary _ _ left right, hw => by
    rw [Node.isWritten_binary] at hw
    refine .bind (protectNode_resets left hw.1) fun left' hl => ?_
    exact .bind (protectNode_resets right hw.2) fun right' hr => .pure (hl.append hr).node
  | .conditional _ test yes no, hw => by
    rw [Node.isWritten_conditional] at hw
    refine .bind (protectNode_resets test hw.1) fun test' ht => ?_
    refine .bind (protectNode_resets yes hw.2.1) fun yes' hy => ?_
    refine .bind (protectNode_resets no hw.2.2) fun no' hn => .pure ?_
    exact ((ht.append hy).append hn).node
  | .group _ _ items, hw => by
    rw [Node.isWritten_group] at hw
    exact .bind (protectNodes_resets items hw) fun items' hi => .pure hi.node
  | .call _ _ callee args, hw => by
    rw [Node.isWritten_call] at hw
    refine .bind (protectNode_resets callee hw.2.1) fun callee' hc => ?_
    exact .bind (protectNodes_resets args hw.2.2) fun args' ha => .pure (hc.append ha.ite).node
  | .function _ _ name params body, hw => by
    rw [Node.isWritten_function] at hw
    refine .bind (protectNode?_resets name hw.1) fun name' hn => ?_
    refine .bind (protectNodes_resets params hw.2.1) fun params' hp => ?_
    refine .bind (protectBlock_resets body hw.2.2) fun body' hb => .pure ?_
    exact ((hn.ite.append hp.ite).append hb).node
  | .arrow _ _ params body, hw => by
    rw [Node.isWritten_arrow] at hw
    refine .bind (protectNodes_resets params hw.1) fun params' hp => ?_
    exact .bind (protectNode_resets body hw.2) fun body' hb => .pure (hp.append hb).node
  | .class _ name members heritage, hw => by
    rw [Node.isWritten_class] at hw
    refine .bind (protectNode?_resets name hw.1) fun name' hn => ?_
    refine .bind (protectNodes_resets members hw.2.1) fun members' hm => ?_
    refine .bind (protectNode?_resets heritage hw.2.2) fun heritage' hh => .pure ?_
    exact (hn.append (hh.append hm)).node

theorem protectNodes_resets : (items : List Node) → (∀ n ∈ items, n.IsWritten) →
    (p.protectNodes items).Gives WalkEvent.IsGuarded fun items' =>
      p.Resets (Node.allInText items) (Node.allInText items')
  | [], _ => .pure .nil
  | n :: rest, hw => by
    rw [List.forall_mem_cons] at hw
    refine .bind (protectNode_resets n hw.1) fun n' hn => ?_
    exact .bind (protectNodes_resets rest hw.2) fun rest' hr => .pure (hn.append hr)

theorem protectNode?_resets : (n : Option Node) → (∀ m ∈ n, m.IsWritten) →
    (p.protectNode? n).Gives WalkEvent.IsGuarded fun n' =>
      p.Resets (Node.inText? n) (Node.inText? n')
  | none, _ => .pure .nil
  | some n, hw => .bind (protectNode_resets n (hw n rfl)) fun _ hn => .pure hn

theorem protectBlock_resets : (b : Block) → b.IsWritten →
    (p.protectBlock b).Gives WalkEvent.IsGuarded fun b' => p.Resets b.inText b'.inText
  | .mk _ stmts, hw => by
    rw [Block.isWritten_mk] at hw
    exact .bind (protectStmts_resets .list stmts hw) fun stmts' hs => .pure (hs none .list none)

theorem protectBlock?_resets : (b : Option Block) → (∀ c ∈ b, c.IsWritten) →
    (p.protectBlock? b).Gives WalkEvent.IsGuarded fun b' =>
      p.Resets (Block.inText? b) (Block.inText? b')
  | none, _ => .pure .nil
  | some b, hw => .bind (protectBlock_resets b (hw b rfl)) fun _ hb => .pure hb

theorem protectStmts_resets (slot : Slot) : (stmts : List Stmt) → (∀ s ∈ stmts, s.IsWritten) →
    (p.protectStmts slot.context stmts).Gives WalkEvent.IsGuarded fun stmts' =>
      ∀ before slot' before', p.Resets (Stmt.allInText slot before stmts)
        (Stmt.allInText slot' before' stmts')
  | [], _ => .pure fun _ _ _ => .nil
  | s :: rest, hw => by
    rw [List.forall_mem_cons] at hw
    refine .bind (protectStmt_resets slot s hw.1) fun r hs => ?_
    refine .bind (protectStmts_resets slot rest hw.2) fun rest' hr => .pure ?_
    intro before slot' before'
    rw [Stmt.allInText_append]
    exact (hs before slot' before').append (hr _ _ _)

theorem protectStmt_resets (slot : Slot) : (s : Stmt) → s.IsWritten →
    (p.protectStmt slot.context s).Gives WalkEvent.IsGuarded (p.ResetsStmt slot s)
  | .empty _, _ | .debugger _, _ | .jump _ _ _, _ => .pure (.plain rfl rfl .nil)
  | .expression span n, hw => by
    rw [Stmt.isWritten_expression] at hw
    refine .bind (protectNode_resets n hw.2) fun n' hn => .pure (.plain rfl ?_ ?_)
    · cases span with
      | synthetic => exact absurd rfl hw.1
      | source => rfl
    · rwa [Stmt.inText, Stmt.inText, if_neg hw.1, if_neg hw.1]
  | .declaration n, hw => by
    rw [Stmt.isWritten_declaration] at hw
    exact .bind (protectNode_resets n hw.2) fun n' hn => .pure (.plain rfl rfl hn)
  | .throw _ n, hw => by
    rw [Stmt.isWritten_throw] at hw
    exact .bind (protectNode_resets n hw.2) fun n' hn => .pure (.plain rfl rfl hn)
  | .block b, hw => by
    rw [Stmt.isWritten_block] at hw
    exact .bind (protectBlock_resets b hw.2) fun b' hb => .pure (.plain rfl rfl hb)
  | .return _ value, hw => by
    rw [Stmt.isWritten_return] at hw
    exact .bind (protectNode?_resets value hw.2) fun value' hv => .pure (.plain rfl rfl hv)
  | .labeled span label body, hw => by
    rw [Stmt.isWritten_labeled] at hw
    refine gives_labeled (fun _ => id) _ span label ?_
    refine (protectStmt_resets .labelBody body hw.2).mono fun r hb hr => .plain rfl rfl ?_
    exact hb.alone_of_none hr none .labelBody none
  | .withObject span object body, hw => by
    rw [Stmt.isWritten_withObject] at hw
    refine gives_withObject (fun _ => id) _ span ?_
    refine (protectNode_resets object hw.2.1).mono fun object' ho => ?_
    refine (protectStmt_resets .withBody body hw.2.2).mono fun r hb hr => .plain rfl rfl ?_
    exact ho.append (hb.alone_of_none hr none .withBody none)
  | .branch _ test yes no, hw => by
    rw [Stmt.isWritten_branch] at hw
    refine .bind (protectNode_resets test hw.2.1) fun test' ht => ?_
    refine .bind (protectStmt_resets .arm yes hw.2.2.1) fun r hy => ?_
    refine .bind (protectArm?_resets no hw.2.2.2) fun no' hn => .pure (.plain rfl rfl ?_)
    exact (ht.append (hy.arm none none)).append hn
  | .switch _ subject cases, hw => by
    rw [Stmt.isWritten_switch] at hw
    refine .bind (protectNode_resets subject hw.2.1) fun subject' hs => ?_
    refine .bind (protectCases_resets cases hw.2.2) fun cases' hc => .pure (.plain rfl rfl ?_)
    exact hs.append hc
  | .try _ body handler finalizer, hw => by
    rw [Stmt.isWritten_try] at hw
    refine .bind (protectBlock_resets body hw.2.1) fun body' hb => ?_
    refine .bind (protectHandler?_resets handler hw.2.2.1) fun handler' hh => ?_
    refine .bind (protectBlock?_resets finalizer hw.2.2.2) fun finalizer' hf => ?_
    exact .pure (.plain rfl rfl ((hb.append hh).append hf))
  | .loop span head body, hw => by
    rw [Stmt.isWritten_loop] at hw
    have hbody := protectStmt_resets .loopBody body hw.2.2
    -- The body has its own reset call in front if it is a loop, and stands behind the guard check.
    have hstmts : (p.protectStmts .sequence body.unbraced).Gives WalkEvent.IsGuarded fun stmts' =>
        ∀ before', p.Resets (.stmt ⟨.loopBody, none, body⟩ :: body.inText)
          (Stmt.allInText .list before' stmts') := by
      cases body with
      | block b =>
        obtain ⟨bodySpan, stmts⟩ := b
        have hs := (Block.isWritten_mk _ _).1 hw.2.2.2
        refine (protectStmts_resets .list stmts hs).mono fun stmts' hs before' => ?_
        exact hs none .list before'
      | _ =>
        rw [Stmt.unbraced, protectStmts_singleton]
        · exact .bind hbody fun r hb => .pure fun before' => hb none .list before'
        · rintro _ _ ⟨⟩
    rw [protectStmt_loop]
    refine .emit_bind fun _ => .bind (protectHead_resets head hw.2.1) fun head' hh => ?_
    exact .bind hstmts fun stmts' hs => .pure (.loop hh (hs _))

theorem protectArm?_resets : (s : Option Stmt) → (∀ t ∈ s, t.IsWritten) →
    (p.protectArm? s).Gives WalkEvent.IsGuarded fun s' =>
      p.Resets (Stmt.inText? .arm s) (Stmt.inText? .arm s')
  | none, _ => .pure .nil
  | some s, hw =>
    .bind (protectStmt_resets .arm s (hw s rfl)) fun _ hs => .pure (hs.arm none none)

/-- What is in the head of a loop keeps its place in front of the body or behind it. -/
theorem protectHead_resets : (h : LoopHead) → h.IsWritten →
    (p.protectHead h).Gives WalkEvent.IsGuarded fun h' =>
      ∀ body body', p.Resets body body' → p.Resets (h.around body) (h'.around body')
  | .while test, hw => by
    rw [LoopHead.isWritten_while] at hw
    exact .bind (protectNode_resets test hw) fun test' ht => .pure fun _ _ hb => ht.append hb
  | .doWhile test, hw => by
    rw [LoopHead.isWritten_doWhile] at hw
    exact .bind (protectNode_resets test hw) fun test' ht => .pure fun _ _ hb => hb.append ht
  | .for init test update, hw => by
    rw [LoopHead.isWritten_for] at hw
    refine .bind (protectNode?_resets init hw.1) fun init' hi => ?_
    refine .bind (protectNode?_resets test hw.2.1) fun test' ht => ?_
    refine .bind (protectNode?_resets update hw.2.2) fun update' hu => .pure fun _ _ hb => ?_
    exact ((hi.append ht).append hu).append hb
  | .forIn left right, hw => by
    rw [LoopHead.isWritten_forIn] at hw
    refine .bind (protectNode_resets left hw.1) fun left' hl => ?_
    refine .bind (protectNode_resets right hw.2) fun right' hr => .pure fun _ _ hb => ?_
    exact (hl.append hr).append hb
  | .forOf _ left right, hw => by
    rw [LoopHead.isWritten_forOf] at hw
    refine .bind (protectNode_resets left hw.1) fun left' hl => ?_
    refine .bind (protectNode_resets right hw.2) fun right' hr => .pure fun _ _ hb => ?_
    exact (hl.append hr).append hb

theorem protectCases_resets : (cases : List Case) → (∀ c ∈ cases, c.IsWritten) →
    (p.protectCases cases).Gives WalkEvent.IsGuarded fun cases' =>
      p.Resets (Case.allInText cases) (Case.allInText cases')
  | [], _ => .pure .nil
  | .mk _ test body :: rest, hw => by
    rw [List.forall_mem_cons] at hw
    refine .bind (protectNode?_resets test hw.1.1) fun test' ht => ?_
    refine .bind (protectStmts_resets .clause body hw.1.2) fun body' hb => ?_
    refine .bind (protectCases_resets rest hw.2) fun rest' hr => .pure ?_
    exact (ht.append (hb none .clause none)).append hr

theorem protectHandler?_resets : (h : Option Handler) → (∀ c ∈ h, c.IsWritten) →
    (p.protectHandler? h).Gives WalkEvent.IsGuarded fun h' =>
      p.Resets (Handler.inText? h) (Handler.inText? h')
  | none, _ => .pure .nil
  | some (.mk _ param body), hw => by
    refine .bind (protectNode?_resets param (hw _ rfl).1) fun param' hp => ?_
    exact .bind (protectBlock_resets body (hw _ rfl).2) fun body' hb => .pure (hp.append hb)

end

/-- An element, and what becomes of it in a list. -/
theorem protectItem_resets : (i : Item) → i.IsWritten →
    (p.protectItem i).Gives WalkEvent.IsGuarded fun items' =>
      ∀ rest rest', (∀ before before', p.Resets (Item.allInText before rest)
          (Item.allInText before' rest')) →
        ∀ before before', p.Resets (Item.allInText before (i :: rest))
          (Item.allInText before' (items' ++ rest'))
  | .stmt s, hw => by
    refine .bind (protectStmt_resets .list s hw) fun r hs => .pure ?_
    intro rest rest' hrest before before'
    rw [Item.allInText_append]
    exact (hs before .list before').append (hrest _ _)
  | .exportDecl _ n, hw | .exportValue _ n, hw | .exportDefault _ n, hw => by
    refine .bind (protectNode_resets n hw) fun n' hn => .pure ?_
    exact fun rest rest' hrest _ _ => hn.append (hrest none none)
  | .imports .., _ | .exportList .., _ | .exportAll .., _ =>
    .pure fun _ _ hrest _ _ => hrest none none

theorem protectItems_resets : (items : List Item) → (∀ i ∈ items, i.IsWritten) →
    (p.protectItems items).Gives WalkEvent.IsGuarded fun items' =>
      ∀ before before', p.Resets (Item.allInText before items) (Item.allInText before' items')
  | [], _ => .pure fun _ _ => .nil
  | i :: rest, hw => by
    rw [List.forall_mem_cons] at hw
    refine .bind (protectItem_resets i hw.1) fun items' hi => ?_
    exact .bind (protectItems_resets rest hw.2) fun rest' hr => .pure (hi rest rest' hr)

/-- In the order of the text the calls of a walked script or module are the reset calls of the loops
that are written. -/
theorem protectProgram_resets {program : Program} (hw : program.IsWritten) :
    (p.protectProgram program).Gives WalkEvent.IsGuarded fun program' =>
      Part.calls program'.inText = program.loopsInText.map p.resetOf :=
  .bind (protectItems_resets program.items hw) fun _ hi => .pure (hi none none)

end Protector

end LoopGuard
