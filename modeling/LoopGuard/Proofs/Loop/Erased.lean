import LoopGuard.Proofs.Loop.Made

/-!
# Trees without what was inserted

A tree without what the walk puts in: inserted statements are left out, and a block without a place
that is the body of a loop, or that holds a loop for an arm of an `if`, gives way to the statement
in it.

Results:
* `Stmt.isMade_of_span`: a statement with a place is no inserted one.
* `Stmt.span_erased`: a statement keeps its place.
* `Stmt.erasedAll_append`, `Item.erasedAll_append`: lists in two pieces.
-/

namespace LoopGuard

namespace Stmt

/-- Whether the statement is an inserted one. -/
def isMade (s : Stmt) : Bool := s.isMadeCall || s.isMadeCheck

/-- The statement that a block without a place was made around to take a check. -/
def unwrapped : Stmt → Stmt
  | .block (.mk .synthetic [s]) => s
  | s => s

/-- The loop that a block without a place was made around to take a reset call. -/
def demoted : Stmt → Stmt
  | .block (.mk .synthetic [.loop span head body]) => .loop span head body
  | s => s

end Stmt

mutual

/-- The node without what is inserted in it. -/
def Node.erased : Node → Node
  | .leaf span leaf => .leaf span leaf
  | .unary span form arg => .unary span form arg.erased
  | .binary span form left right => .binary span form left.erased right.erased
  | .conditional span test yes no => .conditional span test.erased yes.erased no.erased
  | .group span form items => .group span form (Node.erasedAll items)
  | .call span form callee args => .call span form callee.erased (Node.erasedAll args)
  | .function span form name params body =>
    .function span form (Node.erased? name) (Node.erasedAll params) body.erased
  | .arrow span isAsync params body => .arrow span isAsync (Node.erasedAll params) body.erased
  | .class span name members heritage =>
    .class span (Node.erased? name) (Node.erasedAll members) (Node.erased? heritage)

/-- The nodes without what is inserted in them. -/
def Node.erasedAll : List Node → List Node
  | [] => []
  | n :: rest => n.erased :: Node.erasedAll rest

/-- The node, if there is one, without what is inserted in it. -/
def Node.erased? : Option Node → Option Node
  | none => none
  | some n => some n.erased

/-- The block without what is inserted in it. -/
def Block.erased : Block → Block
  | .mk span stmts => .mk span (Stmt.erasedAll stmts)

/-- The block, if there is one, without what is inserted in it. -/
def Block.erased? : Option Block → Option Block
  | none => none
  | some b => some b.erased

/-- The statements that are not inserted, without what is inserted in them. -/
def Stmt.erasedAll : List Stmt → List Stmt
  | [] => []
  | s :: rest => if s.isMade then Stmt.erasedAll rest else s.erased :: Stmt.erasedAll rest

/-- The statement without what is inserted in it. -/
def Stmt.erased : Stmt → Stmt
  | .empty span => .empty span
  | .debugger span => .debugger span
  | .expression span n => .expression span n.erased
  | .declaration n => .declaration n.erased
  | .block b => .block b.erased
  | .return span value => .return span (Node.erased? value)
  | .throw span n => .throw span n.erased
  | .jump span kind target => .jump span kind target
  | .labeled span label body => .labeled span label body.erased
  | .withObject span object body => .withObject span object.erased body.erased
  | .branch span test yes no => .branch span test.erased yes.erased.demoted (Stmt.erasedArm? no)
  | .switch span subject cases => .switch span subject.erased (Case.erasedAll cases)
  | .try span body handler finalizer =>
    .try span body.erased (Handler.erased? handler) (Block.erased? finalizer)
  | .loop span head body => .loop span head.erased body.erased.unwrapped

/-- The other arm of an `if`, if there is one, without what is inserted in it. -/
def Stmt.erasedArm? : Option Stmt → Option Stmt
  | none => none
  | some s => some s.erased.demoted

/-- The clauses without what is inserted in them. -/
def Case.erasedAll : List Case → List Case
  | [] => []
  | .mk span test body :: rest =>
    .mk span (Node.erased? test) (Stmt.erasedAll body) :: Case.erasedAll rest

/-- The `catch` clause, if there is one, without what is inserted in it. -/
def Handler.erased? : Option Handler → Option Handler
  | none => none
  | some (.mk span param body) => some (.mk span (Node.erased? param) body.erased)

/-- The head without what is inserted in it. -/
def LoopHead.erased : LoopHead → LoopHead
  | .while test => .while test.erased
  | .doWhile test => .doWhile test.erased
  | .for init test update => .for (Node.erased? init) (Node.erased? test) (Node.erased? update)
  | .forIn left right => .forIn left.erased right.erased
  | .forOf isAwait left right => .forOf isAwait left.erased right.erased

end

attribute [simp] Node.erased Node.erasedAll Node.erased? Block.erased Block.erased? Stmt.erasedAll
  Stmt.erased Stmt.erasedArm? Case.erasedAll Handler.erased? LoopHead.erased

/-- The elements that are not inserted, without what is inserted in them. -/
def Item.erasedAll : List Item → List Item
  | [] => []
  | .stmt s :: rest => if s.isMade then erasedAll rest else .stmt s.erased :: erasedAll rest
  | .exportDecl span n :: rest => .exportDecl span n.erased :: erasedAll rest
  | .exportValue span n :: rest => .exportValue span n.erased :: erasedAll rest
  | .exportDefault span n :: rest => .exportDefault span n.erased :: erasedAll rest
  | .imports span phase specifiers source endsInComma :: rest =>
    .imports span phase specifiers source endsInComma :: erasedAll rest
  | .exportList span specifiers source endsInComma :: rest =>
    .exportList span specifiers source endsInComma :: erasedAll rest
  | .exportAll span source :: rest => .exportAll span source :: erasedAll rest

/-- The script or module without what is inserted in it. -/
def Program.erased (p : Program) : Program := { p with items := Item.erasedAll p.items }

/-! ## Lists and created blocks -/

theorem Node.span_erased (n : Node) : n.erased.span = n.span := by
  cases n <;> rfl

theorem Block.span_erased (b : Block) : b.erased.span = b.span := by
  cases b
  rfl

namespace Stmt

theorem isMade_of_span {s : Stmt} (h : s.span ≠ .synthetic) : s.isMade = false := by
  cases s with
  | expression span n => cases span with
    | synthetic => exact absurd rfl h
    | source lo hi => rfl
  | branch span test yes no => cases span with
    | synthetic => exact absurd rfl h
    | source lo hi => rfl
  | _ => rfl

theorem demoted_of_span {s : Stmt} (h : s.span ≠ .synthetic) : s.demoted = s := by
  unfold demoted
  split
  · exact absurd rfl h
  · rfl

theorem unwrapped_of_span {s : Stmt} (h : s.span ≠ .synthetic) : s.unwrapped = s := by
  unfold unwrapped
  split
  · exact absurd rfl h
  · rfl

theorem span_erased (s : Stmt) : s.erased.span = s.span := by
  cases s with
  | declaration n => exact n.span_erased
  | block b => exact b.span_erased
  | _ => rfl

theorem erasedAll_append (xs ys : List Stmt) :
    erasedAll (xs ++ ys) = erasedAll xs ++ erasedAll ys := by
  induction xs with
  | nil => rfl
  | cons s rest ih =>
    rw [List.cons_append, erasedAll, erasedAll, ih]
    split
    · rfl
    · rfl

end Stmt

theorem Item.erasedAll_append (stmts : List Stmt) (items : List Item) :
    Item.erasedAll (stmts.map .stmt ++ items) =
      (Stmt.erasedAll stmts).map .stmt ++ Item.erasedAll items := by
  induction stmts with
  | nil => rfl
  | cons s rest ih =>
    rw [List.map_cons, List.cons_append, Item.erasedAll, Stmt.erasedAll, ih]
    split
    · rfl
    · rfl

end LoopGuard
