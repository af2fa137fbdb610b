import LoopGuard.Proofs.Loop.Coverage
import LoopGuard.Proofs.Loop.Erased

/-!
# The walk only adds

What remains of a walked tree without what the walk puts in is the tree that was walked. Where there
is no loop nothing is put in.

Results:
* `Protector.erased_protectProgram`: the walk only adds.
* `Protector.keeps_protectProgram`: a walk that meets no loop leaves a tree as it is.
* `Transformer.walk_only_adds`: both for a text that was read.
-/

namespace LoopGuard

namespace Protector

variable {p : Protector}

/-- Whether a statement and the reset call it may need are, without what is inserted, a statement:
by itself, in a list, and as an arm of an `if`. -/
structure Restores (s : Stmt) (r : Option Stmt × Stmt) : Prop where
  erased : r.2.erased = s
  erasedAll : Stmt.erasedAll (sequenced r.1 r.2) = [s]
  demoted : (alone r.1 r.2).erased.demoted = s

namespace Restores

/-- A written statement that needs no reset call. -/
theorem plain {s s' : Stmt} (hs : s.span ≠ .synthetic) (h : s'.erased = s) :
    Restores s (none, s') where
  erased := h
  erasedAll := by
    have hmade : s'.isMade = false := Stmt.isMade_of_span (by rwa [← s'.span_erased, h])
    show (if s'.isMade then Stmt.erasedAll [] else s'.erased :: Stmt.erasedAll []) = [s]
    rw [hmade, h]
    rfl
  demoted := by
    show s'.erased.demoted = s
    rw [h, Stmt.demoted_of_span hs]

/-- A loop with its two edits. -/
theorem loop {span : Span} {head head' : LoopHead} {body : Stmt} {bodySpan : Span}
    {stmts : List Stmt} (site : LoopSite) (hhead : head'.erased = head)
    (hstmts : (Stmt.block (.mk bodySpan (Stmt.erasedAll stmts))).unwrapped = body) :
    Restores (.loop span head body) (p.guarded site span head' bodySpan stmts) := by
  have herased : (p.guarded site span head' bodySpan stmts).2.erased = .loop span head body := by
    rw [← hhead, ← hstmts]
    rfl
  refine ⟨herased, ?_, ?_⟩
  · show [(p.guarded site span head' bodySpan stmts).2.erased] = _
    rw [herased]
  · show (Stmt.block (.mk .synthetic
      [(p.guarded site span head' bodySpan stmts).2.erased])).demoted = _
    rw [herased, Stmt.demoted]

end Restores

/-! ## The walk -/

mutual

theorem erased_protectNode : (n : Node) → n.IsWritten →
    (p.protectNode n).Gives WalkEvent.IsGuarded fun n' => n'.erased = n
  | .leaf _ _, _ => .pure rfl
  | .unary _ _ arg, hw => by
    rw [Node.isWritten_unary] at hw
    refine .bind (erased_protectNode arg hw) fun arg' ha => .pure ?_
    rw [Node.erased, ha]
  | .binary _ _ left right, hw => by
    rw [Node.isWritten_binary] at hw
    refine .bind (erased_protectNode left hw.1) fun left' hl => ?_
    refine .bind (erased_protectNode right hw.2) fun right' hr => .pure ?_
    rw [Node.erased, hl, hr]
  | .conditional _ test yes no, hw => by
    rw [Node.isWritten_conditional] at hw
    refine .bind (erased_protectNode test hw.1) fun test' ht => ?_
    refine .bind (erased_protectNode yes hw.2.1) fun yes' hy => ?_
    refine .bind (erased_protectNode no hw.2.2) fun no' hn => .pure ?_
    rw [Node.erased, ht, hy, hn]
  | .group _ _ items, hw => by
    rw [Node.isWritten_group] at hw
    refine .bind (erased_protectNodes items hw) fun items' hi => .pure ?_
    rw [Node.erased, hi]
  | .call _ _ callee args, hw => by
    rw [Node.isWritten_call] at hw
    refine .bind (erased_protectNode callee hw.2.1) fun callee' hc => ?_
    refine .bind (erased_protectNodes args hw.2.2) fun args' ha => .pure ?_
    rw [Node.erased, hc, ha]
  | .function _ _ name params body, hw => by
    rw [Node.isWritten_function] at hw
    refine .bind (erased_protectNode? name hw.1) fun name' hn => ?_
    refine .bind (erased_protectNodes params hw.2.1) fun params' hp => ?_
    refine .bind (erased_protectBlock body hw.2.2) fun body' hb => .pure ?_
    rw [Node.erased, hn, hp, hb]
  | .arrow _ _ params body, hw => by
    rw [Node.isWritten_arrow] at hw
    refine .bind (erased_protectNodes params hw.1) fun params' hp => ?_
    refine .bind (erased_protectNode body hw.2) fun body' hb => .pure ?_
    rw [Node.erased, hp, hb]
  | .class _ name members heritage, hw => by
    rw [Node.isWritten_class] at hw
    refine .bind (erased_protectNode? name hw.1) fun name' hn => ?_
    refine .bind (erased_protectNodes members hw.2.1) fun members' hm => ?_
    refine .bind (erased_protectNode? heritage hw.2.2) fun heritage' hh => .pure ?_
    rw [Node.erased, hn, hm, hh]

theorem erased_protectNodes : (items : List Node) → (∀ n ∈ items, n.IsWritten) →
    (p.protectNodes items).Gives WalkEvent.IsGuarded fun items' => Node.erasedAll items' = items
  | [], _ => .pure rfl
  | n :: rest, hw => by
    rw [List.forall_mem_cons] at hw
    refine .bind (erased_protectNode n hw.1) fun n' hn => ?_
    refine .bind (erased_protectNodes rest hw.2) fun rest' hr => .pure ?_
    rw [Node.erasedAll, hn, hr]

theorem erased_protectNode? : (n : Option Node) → (∀ m ∈ n, m.IsWritten) →
    (p.protectNode? n).Gives WalkEvent.IsGuarded fun n' => Node.erased? n' = n
  | none, _ => .pure rfl
  | some n, hw => by
    refine .bind (erased_protectNode n (hw n rfl)) fun n' hn => .pure ?_
    rw [Node.erased?, hn]

theorem erased_protectBlock : (b : Block) → b.IsWritten →
    (p.protectBlock b).Gives WalkEvent.IsGuarded fun b' => b'.erased = b
  | .mk _ stmts, hw => by
    rw [Block.isWritten_mk] at hw
    refine .bind (erased_protectStmts .sequence stmts hw) fun stmts' hs => .pure ?_
    rw [Block.erased, hs]

theorem erased_protectBlock? : (b : Option Block) → (∀ c ∈ b, c.IsWritten) →
    (p.protectBlock? b).Gives WalkEvent.IsGuarded fun b' => Block.erased? b' = b
  | none, _ => .pure rfl
  | some b, hw => by
    refine .bind (erased_protectBlock b (hw b rfl)) fun b' hb => .pure ?_
    rw [Block.erased?, hb]

theorem erased_protectStmts (context : InsertionContext) : (stmts : List Stmt) →
    (∀ s ∈ stmts, s.IsWritten) →
    (p.protectStmts context stmts).Gives WalkEvent.IsGuarded fun stmts' =>
      Stmt.erasedAll stmts' = stmts
  | [], _ => .pure rfl
  | s :: rest, hw => by
    rw [List.forall_mem_cons] at hw
    refine .bind (restores_protectStmt context s hw.1) fun r hs => ?_
    refine .bind (erased_protectStmts context rest hw.2) fun rest' hr => .pure ?_
    rw [Stmt.erasedAll_append, hs.erasedAll, hr]
    rfl

theorem restores_protectStmt (context : InsertionContext) : (s : Stmt) → s.IsWritten →
    (p.protectStmt context s).Gives WalkEvent.IsGuarded (Restores s)
  | .empty _, hw | .debugger _, hw | .jump _ _ _, hw => .pure (.plain hw.1 rfl)
  | .expression _ n, hw => by
    rw [Stmt.isWritten_expression] at hw
    refine .bind (erased_protectNode n hw.2) fun n' hn => .pure (.plain hw.1 ?_)
    rw [Stmt.erased, hn]
  | .declaration n, hw => by
    rw [Stmt.isWritten_declaration] at hw
    refine .bind (erased_protectNode n hw.2) fun n' hn => .pure (.plain hw.1 ?_)
    rw [Stmt.erased, hn]
  | .throw _ n, hw => by
    rw [Stmt.isWritten_throw] at hw
    refine .bind (erased_protectNode n hw.2) fun n' hn => .pure (.plain hw.1 ?_)
    rw [Stmt.erased, hn]
  | .block b, hw => by
    rw [Stmt.isWritten_block] at hw
    refine .bind (erased_protectBlock b hw.2) fun b' hb => .pure (.plain hw.1 ?_)
    rw [Stmt.erased, hb]
  | .return _ value, hw => by
    rw [Stmt.isWritten_return] at hw
    refine .bind (erased_protectNode? value hw.2) fun value' hv => .pure (.plain hw.1 ?_)
    rw [Stmt.erased, hv]
  | .labeled span label body, hw => by
    rw [Stmt.isWritten_labeled] at hw
    refine gives_labeled (fun _ => id) context span label ?_
    refine (restores_protectStmt .sequence body hw.2).mono fun r hb _ => .plain hw.1 ?_
    rw [Stmt.erased, hb.erased]
  | .withObject span object body, hw => by
    rw [Stmt.isWritten_withObject] at hw
    refine gives_withObject (fun _ => id) context span ?_
    refine (erased_protectNode object hw.2.1).mono fun object' ho => ?_
    refine (restores_protectStmt .sequence body hw.2.2).mono fun r hb _ => .plain hw.1 ?_
    rw [Stmt.erased, ho, hb.erased]
  | .branch _ test yes no, hw => by
    rw [Stmt.isWritten_branch] at hw
    refine .bind (erased_protectNode test hw.2.1) fun test' ht => ?_
    refine .bind (restores_protectStmt .branchArm yes hw.2.2.1) fun r hy => ?_
    refine .bind (erased_protectArm? no hw.2.2.2) fun no' hn => .pure (.plain hw.1 ?_)
    rw [Stmt.erased, ht, hy.demoted, hn]
  | .switch _ subject cases, hw => by
    rw [Stmt.isWritten_switch] at hw
    refine .bind (erased_protectNode subject hw.2.1) fun subject' hs => ?_
    refine .bind (erased_protectCases cases hw.2.2) fun cases' hc => .pure (.plain hw.1 ?_)
    rw [Stmt.erased, hs, hc]
  | .try _ body handler finalizer, hw => by
    rw [Stmt.isWritten_try] at hw
    refine .bind (erased_protectBlock body hw.2.1) fun body' hb => ?_
    refine .bind (erased_protectHandler? handler hw.2.2.1) fun handler' hh => ?_
    refine .bind (erased_protectBlock? finalizer hw.2.2.2) fun finalizer' hf => ?_
    refine .pure (.plain hw.1 ?_)
    rw [Stmt.erased, hb, hh, hf]
  | .loop span head body, hw => by
    rw [Stmt.isWritten_loop] at hw
    have hbody := restores_protectStmt .sequence body hw.2.2
    -- A block around a bare body has no place, by which it is told from one that the author wrote.
    have hstmts : (p.protectStmts .sequence body.unbraced).Gives WalkEvent.IsGuarded fun stmts' =>
        (Stmt.block (.mk body.braces (Stmt.erasedAll stmts'))).unwrapped = body := by
      cases body with
      | block b =>
        obtain ⟨bodySpan, stmts⟩ := b
        have hs := (Block.isWritten_mk _ _).1 hw.2.2.2
        refine (erased_protectStmts .sequence stmts hs).mono fun stmts' hs => ?_
        rw [hs]
        exact Stmt.unwrapped_of_span hw.2.2.1
      | _ =>
        rw [Stmt.unbraced, protectStmts_singleton]
        · refine .bind hbody fun r hb => .pure ?_
          rw [hb.erasedAll]
          rfl
        · rintro _ _ ⟨⟩
    rw [protectStmt_loop]
    refine .emit_bind fun _ => .bind (erased_protectHead head hw.2.1) fun head' hh => ?_
    exact .bind hstmts fun stmts' hs => .pure (.loop _ hh hs)

theorem erased_protectArm? : (s : Option Stmt) → (∀ t ∈ s, t.IsWritten) →
    (p.protectArm? s).Gives WalkEvent.IsGuarded fun s' => Stmt.erasedArm? s' = s
  | none, _ => .pure rfl
  | some s, hw => by
    refine .bind (restores_protectStmt .branchArm s (hw s rfl)) fun r hs => .pure ?_
    rw [Stmt.erasedArm?, hs.demoted]

theorem erased_protectHead : (h : LoopHead) → h.IsWritten →
    (p.protectHead h).Gives WalkEvent.IsGuarded fun h' => h'.erased = h
  | .while test, hw => by
    rw [LoopHead.isWritten_while] at hw
    refine .bind (erased_protectNode test hw) fun test' ht => .pure ?_
    rw [LoopHead.erased, ht]
  | .doWhile test, hw => by
    rw [LoopHead.isWritten_doWhile] at hw
    refine .bind (erased_protectNode test hw) fun test' ht => .pure ?_
    rw [LoopHead.erased, ht]
  | .for init test update, hw => by
    rw [LoopHead.isWritten_for] at hw
    refine .bind (erased_protectNode? init hw.1) fun init' hi => ?_
    refine .bind (erased_protectNode? test hw.2.1) fun test' ht => ?_
    refine .bind (erased_protectNode? update hw.2.2) fun update' hu => .pure ?_
    rw [LoopHead.erased, hi, ht, hu]
  | .forIn left right, hw => by
    rw [LoopHead.isWritten_forIn] at hw
    refine .bind (erased_protectNode left hw.1) fun left' hl => ?_
    refine .bind (erased_protectNode right hw.2) fun right' hr => .pure ?_
    rw [LoopHead.erased, hl, hr]
  | .forOf _ left right, hw => by
    rw [LoopHead.isWritten_forOf] at hw
    refine .bind (erased_protectNode left hw.1) fun left' hl => ?_
    refine .bind (erased_protectNode right hw.2) fun right' hr => .pure ?_
    rw [LoopHead.erased, hl, hr]

theorem erased_protectCases : (cases : List Case) → (∀ c ∈ cases, c.IsWritten) →
    (p.protectCases cases).Gives WalkEvent.IsGuarded fun cases' => Case.erasedAll cases' = cases
  | [], _ => .pure rfl
  | .mk _ test body :: rest, hw => by
    rw [List.forall_mem_cons] at hw
    refine .bind (erased_protectNode? test hw.1.1) fun test' ht => ?_
    refine .bind (erased_protectStmts .switchArm body hw.1.2) fun body' hb => ?_
    refine .bind (erased_protectCases rest hw.2) fun rest' hr => .pure ?_
    rw [Case.erasedAll, ht, hb, hr]

theorem erased_protectHandler? : (h : Option Handler) → (∀ c ∈ h, c.IsWritten) →
    (p.protectHandler? h).Gives WalkEvent.IsGuarded fun h' => Handler.erased? h' = h
  | none, _ => .pure rfl
  | some (.mk _ param body), hw => by
    refine .bind (erased_protectNode? param (hw _ rfl).1) fun param' hp => ?_
    refine .bind (erased_protectBlock body (hw _ rfl).2) fun body' hb => .pure ?_
    rw [Handler.erased?, hp, hb]

end

/-- An element, and what becomes of it in a list. -/
theorem erased_protectItem : (i : Item) → i.IsWritten →
    (p.protectItem i).Gives WalkEvent.IsGuarded fun items' =>
      ∀ rest, Item.erasedAll (items' ++ rest) = i :: Item.erasedAll rest
  | .stmt s, hw => by
    refine .bind (restores_protectStmt .sequence s hw) fun r hs => .pure fun rest => ?_
    rw [Item.erasedAll_append, hs.erasedAll]
    rfl
  | .exportDecl _ n, hw | .exportValue _ n, hw | .exportDefault _ n, hw => by
    refine .bind (erased_protectNode n hw) fun n' hn => .pure fun rest => ?_
    rw [List.singleton_append, Item.erasedAll, hn]
  | .imports .., _ | .exportList .., _ | .exportAll .., _ => .pure fun _ => rfl

theorem erased_protectItems : (items : List Item) → (∀ i ∈ items, i.IsWritten) →
    (p.protectItems items).Gives WalkEvent.IsGuarded fun items' => Item.erasedAll items' = items
  | [], _ => .pure rfl
  | i :: rest, hw => by
    rw [List.forall_mem_cons] at hw
    refine .bind (erased_protectItem i hw.1) fun items' hi => ?_
    refine .bind (erased_protectItems rest hw.2) fun rest' hr => .pure ?_
    rw [hi, hr]

/-- The walk over a written script or module only adds. -/
theorem erased_protectProgram {program : Program} (hw : program.IsWritten) :
    (p.protectProgram program).Gives WalkEvent.IsGuarded fun program' =>
      program'.erased = program := by
  refine .bind (erased_protectItems program.items hw) fun items' hi => .pure ?_
  show { program with items := Item.erasedAll items' } = program
  rw [hi]

/-! ## Walks that meet nothing -/

mutual

theorem keeps_protectNode : (n : Node) → (p.protectNode n).Keeps n
  | .leaf _ _ => .pure rfl
  | .unary _ _ arg => by
    refine .bind (keeps_protectNode arg) fun arg' ha => .pure ?_
    rw [ha]
  | .binary _ _ left right => by
    refine .bind (keeps_protectNode left) fun left' hl => ?_
    refine .bind (keeps_protectNode right) fun right' hr => .pure ?_
    rw [hl, hr]
  | .conditional _ test yes no => by
    refine .bind (keeps_protectNode test) fun test' ht => ?_
    refine .bind (keeps_protectNode yes) fun yes' hy => ?_
    refine .bind (keeps_protectNode no) fun no' hn => .pure ?_
    rw [ht, hy, hn]
  | .group _ _ items => by
    refine .bind (keeps_protectNodes items) fun items' hi => .pure ?_
    rw [hi]
  | .call _ _ callee args => by
    refine .bind (keeps_protectNode callee) fun callee' hc => ?_
    refine .bind (keeps_protectNodes args) fun args' ha => .pure ?_
    rw [hc, ha]
  | .function _ _ name params body => by
    refine .bind (keeps_protectNode? name) fun name' hn => ?_
    refine .bind (keeps_protectNodes params) fun params' hp => ?_
    refine .bind (keeps_protectBlock body) fun body' hb => .pure ?_
    rw [hn, hp, hb]
  | .arrow _ _ params body => by
    refine .bind (keeps_protectNodes params) fun params' hp => ?_
    refine .bind (keeps_protectNode body) fun body' hb => .pure ?_
    rw [hp, hb]
  | .class _ name members heritage => by
    refine .bind (keeps_protectNode? name) fun name' hn => ?_
    refine .bind (keeps_protectNodes members) fun members' hm => ?_
    refine .bind (keeps_protectNode? heritage) fun heritage' hh => .pure ?_
    rw [hn, hm, hh]

theorem keeps_protectNodes : (items : List Node) → (p.protectNodes items).Keeps items
  | [] => .pure rfl
  | n :: rest => by
    refine .bind (keeps_protectNode n) fun n' hn => ?_
    refine .bind (keeps_protectNodes rest) fun rest' hr => .pure ?_
    rw [hn, hr]

theorem keeps_protectNode? : (n : Option Node) → (p.protectNode? n).Keeps n
  | none => .pure rfl
  | some n => by
    refine .bind (keeps_protectNode n) fun n' hn => .pure ?_
    rw [hn]

theorem keeps_protectBlock : (b : Block) → (p.protectBlock b).Keeps b
  | .mk _ stmts => by
    refine .bind (keeps_protectStmts .sequence stmts) fun stmts' hs => .pure ?_
    rw [hs]

theorem keeps_protectBlock? : (b : Option Block) → (p.protectBlock? b).Keeps b
  | none => .pure rfl
  | some b => by
    refine .bind (keeps_protectBlock b) fun b' hb => .pure ?_
    rw [hb]

theorem keeps_protectStmts (context : InsertionContext) : (stmts : List Stmt) →
    (p.protectStmts context stmts).Keeps stmts
  | [] => .pure rfl
  | s :: rest => by
    refine .bind (keeps_protectStmt context s) fun r hs => ?_
    refine .bind (keeps_protectStmts context rest) fun rest' hr => .pure ?_
    rw [hs, hr]
    rfl

theorem keeps_protectStmt (context : InsertionContext) : (s : Stmt) →
    (p.protectStmt context s).Keeps (none, s)
  | .empty _ | .debugger _ | .jump _ _ _ => .pure rfl
  | .expression _ n | .declaration n | .throw _ n => by
    refine .bind (keeps_protectNode n) fun n' hn => .pure ?_
    rw [hn]
  | .block b => by
    refine .bind (keeps_protectBlock b) fun b' hb => .pure ?_
    rw [hb]
  | .return _ value => by
    refine .bind (keeps_protectNode? value) fun value' hv => .pure ?_
    rw [hv]
  | .labeled span label body => by
    refine gives_labeled (fun _ => id) context span label ?_
    refine (keeps_protectStmt .sequence body).mono fun r hb _ => ?_
    rw [hb]
  | .withObject span object body => by
    refine gives_withObject (fun _ => id) context span ?_
    refine (keeps_protectNode object).mono fun object' ho => ?_
    refine (keeps_protectStmt .sequence body).mono fun r hb _ => ?_
    rw [ho, hb]
  | .branch _ test yes no => by
    refine .bind (keeps_protectNode test) fun test' ht => ?_
    refine .bind (keeps_protectStmt .branchArm yes) fun r hy => ?_
    refine .bind (keeps_protectArm? no) fun no' hn => .pure ?_
    rw [ht, hy, hn]
    rfl
  | .switch _ subject cases => by
    refine .bind (keeps_protectNode subject) fun subject' hs => ?_
    refine .bind (keeps_protectCases cases) fun cases' hc => .pure ?_
    rw [hs, hc]
  | .try _ body handler finalizer => by
    refine .bind (keeps_protectBlock body) fun body' hb => ?_
    refine .bind (keeps_protectHandler? handler) fun handler' hh => ?_
    refine .bind (keeps_protectBlock? finalizer) fun finalizer' hf => .pure ?_
    rw [hb, hh, hf]
  | .loop span head body => by
    rw [protectStmt_loop]
    exact .emit_bind False.elim

theorem keeps_protectArm? : (s : Option Stmt) → (p.protectArm? s).Keeps s
  | none => .pure rfl
  | some s => by
    refine .bind (keeps_protectStmt .branchArm s) fun r hs => .pure ?_
    rw [hs]
    rfl

theorem keeps_protectCases : (cases : List Case) → (p.protectCases cases).Keeps cases
  | [] => .pure rfl
  | .mk _ test body :: rest => by
    refine .bind (keeps_protectNode? test) fun test' ht => ?_
    refine .bind (keeps_protectStmts .switchArm body) fun body' hb => ?_
    refine .bind (keeps_protectCases rest) fun rest' hr => .pure ?_
    rw [ht, hb, hr]

theorem keeps_protectHandler? : (h : Option Handler) → (p.protectHandler? h).Keeps h
  | none => .pure rfl
  | some (.mk _ param body) => by
    refine .bind (keeps_protectNode? param) fun param' hp => ?_
    refine .bind (keeps_protectBlock body) fun body' hb => .pure ?_
    rw [hp, hb]

end

theorem keeps_protectItem : (i : Item) → (p.protectItem i).Keeps [i]
  | .stmt s => by
    refine .bind (keeps_protectStmt .sequence s) fun r hs => .pure ?_
    rw [hs]
    rfl
  | .exportDecl _ n | .exportValue _ n | .exportDefault _ n => by
    refine .bind (keeps_protectNode n) fun n' hn => .pure ?_
    rw [hn]
  | .imports .. | .exportList .. | .exportAll .. => .pure rfl

theorem keeps_protectItems : (items : List Item) → (p.protectItems items).Keeps items
  | [] => .pure rfl
  | i :: rest => by
    refine .bind (keeps_protectItem i) fun items' hi => ?_
    refine .bind (keeps_protectItems rest) fun rest' hr => .pure ?_
    rw [hi, hr]
    rfl

/-- A walk that meets no loop leaves a script or module as it is. -/
theorem keeps_protectProgram (program : Program) : (p.protectProgram program).Keeps program := by
  refine .bind (keeps_protectItems program.items) fun items' hi => .pure ?_
  rw [hi]

end Protector

/-! ## Texts -/

namespace Transformer

/-- The walk over a text whose loops can all be protected only adds, and adds nothing where there is
no loop. -/
theorem walk_only_adds (t : Transformer) (p : ParsedText)
    (hp : ParsedText.ofSource t.code.toArray = .ok p)
    (ho : WalkEvent.offence? (t.walk p).events = none) :
    (t.walk p).value.erased = p.program ∧
      (p.program.loops = [] → (t.walk p).value = p.program) := by
  have hw := ParsedText.isWritten_ofSource hp
  have hmet := WalkEvent.offence?_eq_none_iff.1 ho
  refine ⟨t.protector.erased_protectProgram hw hmet, fun hloops => ?_⟩
  have hevents := (t.protector.protectProgram_covers hw hmet).events
  rw [show p.program.parts.filterMap Part.loop? = [] from hloops, List.map_nil] at hevents
  refine t.protector.keeps_protectProgram p.program fun e he => ?_
  rw [hevents] at he
  cases he

/-- Bare loop bodies, looping and other arms of an `if`, and blocks within blocks. -/
def bareBodies : Transformer where
  guardAlias := ⟨"g", []⟩
  file := "a.js"
  code := "\x7bif(a)for(;;)while(b)c;else \x7b\x7bd\x7d\x7d\x7d".toList
  inputMap := none
  emitsSourceMap := false

theorem bareBodies_erased : ∃ p, ParsedText.ofSource bareBodies.code.toArray = .ok p ∧
    p.program.loops.length = 2 ∧ (bareBodies.walk p).value.erased = p.program := by
  have hpasses : ParsedText.passes bareBodies.code.toArray fun p =>
      (WalkEvent.offence? (bareBodies.walk p).events).isNone && p.program.loops.length == 2 := by
    decide +kernel
  obtain ⟨p, hp, htest⟩ := ParsedText.exists_of_passes hpasses
  rw [Bool.and_eq_true, Option.isNone_iff_eq_none, beq_iff_eq] at htest
  exact ⟨p, hp, htest.2, (walk_only_adds bareBodies p hp htest.1).1⟩

end Transformer

end LoopGuard
