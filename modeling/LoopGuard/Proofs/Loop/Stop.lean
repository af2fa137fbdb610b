import LoopGuard.Proofs.Loop.Walk

/-!
# A walk that stops

The walk as it goes when it carries along what it has done: the sites of the loops protected so far,
and the first offence, which stops it. Once there is an offence the elements of lists are passed
over, and with them every loop that could be protected; whatever else the walk is in the middle of
goes on, down to further offences, of which only the first is kept.

Such a walk ends where the list of all events of a full walk leads, read up to the first offence.

Results:
* `WalkState.meet_append`: events in a row.
* `Protector.visitStmt_eq`: the walk over a statement.
* `Protector.visitProgram_eq`: the walk over a script or module.
-/

namespace LoopGuard

/-- What a walk has done so far. -/
structure WalkState where
  sites : List LoopSite
  error : Option Offence

namespace WalkState

variable (w : WalkState)

/-- Nothing has been done. -/
def start : WalkState := ⟨[], none⟩

/-- A loop is protected, if there is one. -/
def enter (site : Option LoopSite) : WalkState := { w with sites := w.sites ++ site.toList }

/-- An offence is kept if it is the first one. -/
def reject (o : Offence) : WalkState := if w.error.isSome then w else { w with error := some o }

/-- An element of a list is passed over once there is an offence. Else it is protected, if it is a
loop, and what is inside it is visited. -/
def element (site : Option LoopSite) (inside : WalkState → WalkState) : WalkState :=
  if w.error.isSome then w else inside (w.enter site)

/-- An arm of an `if` is a list of its own if it is a loop. -/
def arm (site : Option LoopSite) (inside : WalkState → WalkState) : WalkState :=
  if site.isSome then w.element site inside else inside w

/-- The state after some events, of which nothing counts behind the first offence. -/
def meet (events : List WalkEvent) : WalkState :=
  if w.error.isSome then w else ⟨w.sites ++ WalkEvent.sites events, WalkEvent.offence? events⟩

end WalkState

namespace Protector

/-- The site of a statement that is a loop. -/
def site? (p : Protector) (context : InsertionContext) : Stmt → Option LoopSite
  | .loop span head _ => some (p.site span head context)
  | _ => none

mutual

/-- Visits what is inside a node. -/
def visitNode (p : Protector) : Node → WalkState → WalkState
  | .leaf _ _, w => w
  | .unary _ _ arg, w => visitNode p arg w
  | .binary _ _ left right, w => visitNode p right (visitNode p left w)
  | .conditional _ test yes no, w => visitNode p no (visitNode p yes (visitNode p test w))
  | .group _ _ items, w => visitNodes p items w
  | .call _ _ callee args, w => visitNodes p args (visitNode p callee w)
  | .function _ _ name params body, w =>
    visitBlock p body (visitNodes p params (visitNode? p name w))
  | .arrow _ _ params body, w => visitNode p body (visitNodes p params w)
  | .class _ name members heritage, w =>
    visitNode? p heritage (visitNodes p members (visitNode? p name w))

/-- Visits nodes in their order. -/
def visitNodes (p : Protector) : List Node → WalkState → WalkState
  | [], w => w
  | n :: rest, w => visitNodes p rest (visitNode p n w)

/-- Visits a node that may be missing. -/
def visitNode? (p : Protector) : Option Node → WalkState → WalkState
  | none, w => w
  | some n, w => visitNode p n w

/-- Visits the list of a block. -/
def visitBlock (p : Protector) : Block → WalkState → WalkState
  | .mk _ stmts, w => visitStmts p .sequence stmts w

/-- Visits the list of a block that may be missing. -/
def visitBlock? (p : Protector) : Option Block → WalkState → WalkState
  | none, w => w
  | some b, w => visitBlock p b w

/-- Visits the elements of a list. -/
def visitStmts (p : Protector) (context : InsertionContext) : List Stmt → WalkState → WalkState
  | [], w => w
  | s :: rest, w =>
    visitStmts p context rest (w.element (p.site? context s) fun w => visitStmt p s w)

/-- Visits what is inside a statement. The body of a loop is a list, and so is an arm that is a
loop; the body of a label or of a `with` is looked at before anything is visited. -/
def visitStmt (p : Protector) : Stmt → WalkState → WalkState
  | .empty _, w | .debugger _, w | .jump _ _ _, w => w
  | .expression _ n, w | .declaration n, w | .throw _ n, w => visitNode p n w
  | .block b, w => visitBlock p b w
  | .return _ value, w => visitNode? p value w
  | .labeled _ _ (.loop span _ _), w => w.reject (p.offence .labeled span)
  | .labeled _ _ body, w => visitStmt p body w
  | .withObject _ _ (.loop span _ _), w => w.reject (p.offence .withObject span)
  | .withObject _ object body, w => visitStmt p body (visitNode p object w)
  | .branch _ test yes no, w =>
    visitArm? p no ((visitNode p test w).arm (p.site? .branchArm yes) fun w => visitStmt p yes w)
  | .switch _ subject cases, w => visitCases p cases (visitNode p subject w)
  | .try _ body handler finalizer, w =>
    visitBlock? p finalizer (visitHandler? p handler (visitBlock p body w))
  | .loop _ head (.block (.mk _ stmts)), w => visitStmts p .sequence stmts (visitHead p head w)
  | .loop _ head body, w =>
    (visitHead p head w).element (p.site? .sequence body) fun w => visitStmt p body w

/-- Visits the other arm of an `if`. -/
def visitArm? (p : Protector) : Option Stmt → WalkState → WalkState
  | none, w => w
  | some s, w => w.arm (p.site? .branchArm s) fun w => visitStmt p s w

/-- Visits what is inside the head of a loop. -/
def visitHead (p : Protector) : LoopHead → WalkState → WalkState
  | .while test, w | .doWhile test, w => visitNode p test w
  | .for init test update, w => visitNode? p update (visitNode? p test (visitNode? p init w))
  | .forIn left right, w | .forOf _ left right, w => visitNode p right (visitNode p left w)

/-- Visits the clauses of a `switch`. -/
def visitCases (p : Protector) : List Case → WalkState → WalkState
  | [], w => w
  | .mk _ test body :: rest, w =>
    visitCases p rest (visitStmts p .switchArm body (visitNode? p test w))

/-- Visits a `catch` clause that may be missing. -/
def visitHandler? (p : Protector) : Option Handler → WalkState → WalkState
  | none, w => w
  | some (.mk _ param body), w => visitBlock p body (visitNode? p param w)

end

/-- Visits the elements of a script or module. -/
def visitItems (p : Protector) : List Item → WalkState → WalkState
  | [], w => w
  | .stmt s :: rest, w =>
    visitItems p rest (w.element (p.site? .sequence s) fun w => visitStmt p s w)
  | .exportDecl _ n :: rest, w | .exportValue _ n :: rest, w | .exportDefault _ n :: rest, w =>
    visitItems p rest (w.element none fun w => visitNode p n w)
  | .imports .. :: rest, w | .exportList .. :: rest, w | .exportAll .. :: rest, w =>
    visitItems p rest w

/-- Where a walk over a script or module ends. -/
def visitProgram (p : Protector) (program : Program) : WalkState :=
  visitItems p program.items .start

end Protector

/-! ## Events in a row -/

namespace WalkEvent

theorem sites_append (xs ys : List WalkEvent) :
    sites (xs ++ ys) = sites xs ++ if (offence? xs).isSome then [] else sites ys := by
  induction xs with
  | nil => rfl
  | cons e rest ih =>
    cases e with
    | guarded site =>
      rw [List.cons_append, sites, ih]
      rfl
    | offended o => rfl

theorem offence?_append (xs ys : List WalkEvent) :
    offence? (xs ++ ys) = (offence? xs).or (offence? ys) := by
  induction xs with
  | nil => rfl
  | cons e rest ih =>
    cases e with
    | guarded site => exact ih
    | offended o => rfl

end WalkEvent

namespace WalkState

variable {w : WalkState}

theorem meet_of_error (h : w.error.isSome = true) (events : List WalkEvent) :
    w.meet events = w := by
  rw [meet, if_pos h]

theorem meet_of_none (h : w.error = none) (events : List WalkEvent) :
    w.meet events = ⟨w.sites ++ WalkEvent.sites events, WalkEvent.offence? events⟩ := by
  simp [meet, h]

@[simp] theorem meet_nil : w.meet [] = w := by
  cases h : w.error with
  | none => simp [meet_of_none h, WalkEvent.sites, WalkEvent.offence?, ← h]
  | some o => exact meet_of_error (by rw [h]; rfl) []

theorem meet_append (xs ys : List WalkEvent) : w.meet (xs ++ ys) = (w.meet xs).meet ys := by
  cases h : w.error with
  | some o =>
    have he : w.error.isSome = true := by rw [h]; rfl
    rw [meet_of_error he, meet_of_error he, meet_of_error he]
  | none =>
    rw [meet_of_none h, meet_of_none h, WalkEvent.sites_append, WalkEvent.offence?_append]
    cases ho : WalkEvent.offence? xs with
    | none => simp [meet]
    | some o => simp [meet]

/-- An offence is kept if it is the first one. -/
theorem reject_eq_meet (o : Offence) : w.reject o = w.meet [.offended o] := by
  simp [reject, meet, WalkEvent.sites, WalkEvent.offence?]

theorem enter_eq_meet (h : w.error = none) (site : LoopSite) :
    w.enter (some site) = w.meet [.guarded site] := by
  simp [enter, meet_of_none h, WalkEvent.sites, WalkEvent.offence?, h]

@[simp] theorem enter_none : w.enter none = w := by simp [enter]

/-- An element of a list, if it is known what the visit does as long as there is no offence. -/
theorem element_eq_meet {site : Option LoopSite} {inside : WalkState → WalkState}
    {events : List WalkEvent} (h : w.error = none → inside (w.enter site) = w.meet events) :
    w.element site inside = w.meet events := by
  unfold element
  split
  · next he => rw [meet_of_error he]
  · next he => exact h (by simpa using he)

end WalkState

/-! ## The walk -/

namespace Protector

variable {p : Protector}

theorem site?_of_isLoop (context : InsertionContext) {s : Stmt} (h : s.isLoop = false) :
    p.site? context s = none := by
  cases s <;> first | rfl | cases h

theorem isSome_site? (context : InsertionContext) (s : Stmt) :
    (p.site? context s).isSome = s.isLoop := by
  cases s <;> rfl

/-- An arm of an `if`, if it is known what the visit to its inside does. -/
theorem arm_eq_meet {context : InsertionContext} {s : Stmt} {events : List WalkEvent}
    (h : ∀ w : WalkState, (s.isLoop = true → w.error = none) →
      p.visitStmt s (w.enter (p.site? context s)) = w.meet events) (w : WalkState) :
    w.arm (p.site? context s) (fun w => p.visitStmt s w) = w.meet events := by
  unfold WalkState.arm
  rw [isSome_site?]
  cases hl : s.isLoop with
  | true => exact WalkState.element_eq_meet fun he => h w fun _ => he
  | false =>
    have hs := h w (by simp [hl])
    rw [site?_of_isLoop _ hl, WalkState.enter_none] at hs
    exact hs

theorem visitStmt_labeled (span : Span) (label : Label) {body : Stmt} (h : body.isLoop = false)
    (w : WalkState) : p.visitStmt (.labeled span label body) w = p.visitStmt body w := by
  rw [visitStmt]
  rintro _ _ _ rfl
  cases h

theorem visitStmt_withObject (span : Span) (object : Node) {body : Stmt} (h : body.isLoop = false)
    (w : WalkState) :
    p.visitStmt (.withObject span object body) w = p.visitStmt body (p.visitNode object w) := by
  rw [visitStmt]
  rintro _ _ _ rfl
  cases h

/-- The body of a loop is a list, with or without braces. -/
theorem visitStmt_loop (span : Span) (head : LoopHead) (body : Stmt) (w : WalkState) :
    p.visitStmt (.loop span head body) w =
      p.visitStmts .sequence body.unbraced (p.visitHead head w) := by
  cases body with
  | block b =>
    cases b
    rw [visitStmt]
    rfl
  | _ =>
    rw [visitStmt]
    · rfl
    · rintro _ _ ⟨⟩

mutual

theorem visitNode_eq : (n : Node) → (w : WalkState) →
    p.visitNode n w = w.meet (p.protectNode n).events
  | .leaf _ _, w => by simp [visitNode, protectNode]
  | .unary _ _ arg, w => by simp [visitNode, protectNode, visitNode_eq arg]
  | .binary _ _ left right, w => by
    simp [visitNode, protectNode, visitNode_eq left, visitNode_eq right, WalkState.meet_append]
  | .conditional _ test yes no, w => by
    simp [visitNode, protectNode, visitNode_eq test, visitNode_eq yes, visitNode_eq no,
      WalkState.meet_append]
  | .group _ _ items, w => by simp [visitNode, protectNode, visitNodes_eq items]
  | .call _ _ callee args, w => by
    simp [visitNode, protectNode, visitNode_eq callee, visitNodes_eq args, WalkState.meet_append]
  | .function _ _ name params body, w => by
    simp [visitNode, protectNode, visitNode?_eq name, visitNodes_eq params, visitBlock_eq body,
      WalkState.meet_append]
  | .arrow _ _ params body, w => by
    simp [visitNode, protectNode, visitNodes_eq params, visitNode_eq body, WalkState.meet_append]
  | .class _ name members heritage, w => by
    simp [visitNode, protectNode, visitNode?_eq name, visitNodes_eq members, visitNode?_eq heritage,
      WalkState.meet_append]

theorem visitNodes_eq : (items : List Node) → (w : WalkState) →
    p.visitNodes items w = w.meet (p.protectNodes items).events
  | [], w => by simp [visitNodes, protectNodes]
  | n :: rest, w => by
    simp [visitNodes, protectNodes, visitNode_eq n, visitNodes_eq rest, WalkState.meet_append]

theorem visitNode?_eq : (n : Option Node) → (w : WalkState) →
    p.visitNode? n w = w.meet (p.protectNode? n).events
  | none, w => by simp [visitNode?, protectNode?]
  | some n, w => by simp [visitNode?, protectNode?, visitNode_eq n]

theorem visitBlock_eq : (b : Block) → (w : WalkState) →
    p.visitBlock b w = w.meet (p.protectBlock b).events
  | .mk _ stmts, w => by simp [visitBlock, protectBlock, visitStmts_eq .sequence stmts]

theorem visitBlock?_eq : (b : Option Block) → (w : WalkState) →
    p.visitBlock? b w = w.meet (p.protectBlock? b).events
  | none, w => by simp [visitBlock?, protectBlock?]
  | some b, w => by simp [visitBlock?, protectBlock?, visitBlock_eq b]

theorem visitStmts_eq (context : InsertionContext) : (stmts : List Stmt) → (w : WalkState) →
    p.visitStmts context stmts w = w.meet (p.protectStmts context stmts).events
  | [], w => by simp [visitStmts, protectStmts]
  | s :: rest, w => by
    have hs := WalkState.element_eq_meet fun he => visitStmt_eq context s w fun _ => he
    simp [visitStmts, protectStmts, hs, visitStmts_eq context rest, WalkState.meet_append]

/-- A loop is only visited when there is no offence yet, and after its site was taken. -/
theorem visitStmt_eq (context : InsertionContext) : (s : Stmt) → (w : WalkState) →
    (s.isLoop = true → w.error = none) →
    p.visitStmt s (w.enter (p.site? context s)) = w.meet (p.protectStmt context s).events
  | .empty _, w, _ | .debugger _, w, _ | .jump _ _ _, w, _ => by
    simp [visitStmt, protectStmt, site?]
  | .expression _ n, w, _ | .declaration n, w, _ | .throw _ n, w, _ => by
    simp [visitStmt, protectStmt, site?, visitNode_eq n]
  | .block b, w, _ => by simp [visitStmt, protectStmt, site?, visitBlock_eq b]
  | .return _ value, w, _ => by simp [visitStmt, protectStmt, site?, visitNode?_eq value]
  | .labeled span label body, w, _ => by
    rw [site?_of_isLoop _ rfl, WalkState.enter_none]
    cases hl : body.isLoop with
    | false =>
      have hb := visitStmt_eq .sequence body w (by simp [hl])
      rw [site?_of_isLoop _ hl, WalkState.enter_none] at hb
      rw [visitStmt_labeled _ _ hl, protectStmt_labeled _ _ _ hl, hb]
      simp
    | true =>
      obtain ⟨_, _, _, rfl⟩ := Stmt.isLoop_iff.1 hl
      rw [visitStmt, protectStmt]
      exact WalkState.reject_eq_meet _
  | .withObject span object body, w, _ => by
    rw [site?_of_isLoop _ rfl, WalkState.enter_none]
    cases hl : body.isLoop with
    | false =>
      have hb := visitStmt_eq .sequence body (p.visitNode object w) (by simp [hl])
      rw [site?_of_isLoop _ hl, WalkState.enter_none, visitNode_eq object,
        ← WalkState.meet_append] at hb
      rw [visitStmt_withObject _ _ hl, protectStmt_withObject _ _ _ hl, visitNode_eq object, hb]
      simp
    | true =>
      obtain ⟨_, _, _, rfl⟩ := Stmt.isLoop_iff.1 hl
      rw [visitStmt, protectStmt]
      exact WalkState.reject_eq_meet _
  | .branch _ test yes no, w, _ => by
    have hyes := arm_eq_meet (visitStmt_eq .branchArm yes) (p.visitNode test w)
    rw [site?_of_isLoop _ rfl, WalkState.enter_none, visitStmt, hyes, visitArm?_eq no,
      visitNode_eq test, ← WalkState.meet_append, ← WalkState.meet_append]
    simp [protectStmt]
  | .switch _ subject cases, w, _ => by
    simp [visitStmt, protectStmt, site?, visitNode_eq subject, visitCases_eq cases,
      WalkState.meet_append]
  | .try _ body handler finalizer, w, _ => by
    simp [visitStmt, protectStmt, site?, visitBlock_eq body, visitHandler?_eq handler,
      visitBlock?_eq finalizer, WalkState.meet_append]
  | .loop span head body, w, h => by
    have hbody := visitStmt_eq .sequence body
    have hlist (w : WalkState) : p.visitStmts .sequence body.unbraced w =
        w.meet (p.protectStmts .sequence body.unbraced).events := by
      cases body with
      | block b =>
        obtain ⟨_, stmts⟩ := b
        exact visitStmts_eq .sequence stmts w
      | _ =>
        rw [Stmt.unbraced, protectStmts_singleton]
        · have hs := WalkState.element_eq_meet fun he => hbody w fun _ => he
          simpa [visitStmts] using hs
        · rintro _ _ ⟨⟩
    rw [site?, WalkState.enter_eq_meet (h rfl), visitStmt_loop, hlist, visitHead_eq head,
      ← WalkState.meet_append, ← WalkState.meet_append, protectStmt_loop]
    simp

theorem visitArm?_eq : (s : Option Stmt) → (w : WalkState) →
    p.visitArm? s w = w.meet (p.protectArm? s).events
  | none, w => by simp [visitArm?, protectArm?]
  | some s, w => by
    rw [visitArm?, arm_eq_meet (visitStmt_eq .branchArm s)]
    simp [protectArm?]

theorem visitHead_eq : (h : LoopHead) → (w : WalkState) →
    p.visitHead h w = w.meet (p.protectHead h).events
  | .while test, w | .doWhile test, w => by simp [visitHead, protectHead, visitNode_eq test]
  | .for init test update, w => by
    simp [visitHead, protectHead, visitNode?_eq init, visitNode?_eq test, visitNode?_eq update,
      WalkState.meet_append]
  | .forIn left right, w | .forOf _ left right, w => by
    simp [visitHead, protectHead, visitNode_eq left, visitNode_eq right, WalkState.meet_append]

theorem visitCases_eq : (cases : List Case) → (w : WalkState) →
    p.visitCases cases w = w.meet (p.protectCases cases).events
  | [], w => by simp [visitCases, protectCases]
  | .mk _ test body :: rest, w => by
    simp [visitCases, protectCases, visitNode?_eq test, visitStmts_eq .switchArm body,
      visitCases_eq rest, WalkState.meet_append]

theorem visitHandler?_eq : (h : Option Handler) → (w : WalkState) →
    p.visitHandler? h w = w.meet (p.protectHandler? h).events
  | none, w => by simp [visitHandler?, protectHandler?]
  | some (.mk _ param body), w => by
    simp [visitHandler?, protectHandler?, visitNode?_eq param, visitBlock_eq body,
      WalkState.meet_append]

end

theorem visitItems_eq (items : List Item) (w : WalkState) :
    p.visitItems items w = w.meet (p.protectItems items).events := by
  induction items generalizing w with
  | nil => simp [visitItems, protectItems]
  | cons i rest ih =>
    cases i with
    | stmt s =>
      have hs := WalkState.element_eq_meet fun he => visitStmt_eq (p := p) .sequence s w fun _ => he
      simp [visitItems, protectItems, protectItem, hs, ih, WalkState.meet_append]
    | exportDecl _ n | exportValue _ n | exportDefault _ n =>
      have hn : w.element none (fun w => p.visitNode n w) = w.meet (p.protectNode n).events :=
        WalkState.element_eq_meet fun _ => by rw [WalkState.enter_none, visitNode_eq n]
      simp [visitItems, protectItems, protectItem, hn, ih, WalkState.meet_append]
    | imports | exportList | exportAll =>
      simp [visitItems, protectItems, protectItem, ih]

/-- A walk that stops ends with the sites and the offence of a full walk, read up to there. -/
theorem visitProgram_eq (program : Program) :
    p.visitProgram program = ⟨WalkEvent.sites (p.protectProgram program).events,
      WalkEvent.offence? (p.protectProgram program).events⟩ := by
  rw [visitProgram, visitItems_eq, WalkState.meet_of_none rfl]
  simp [protectProgram, WalkState.start]

end Protector

end LoopGuard
