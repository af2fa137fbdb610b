import LoopGuard.Syntax.Tree

/-!
# Trees without places

`DropSpan`: a tree that was read from one text and is put into another one has no place there, so
every span of it is dropped. It goes through the whole tree, one function for each kind of part.
-/

namespace LoopGuard

/-- The label without its place. -/
def Label.unplaced (l : Label) : Label := ⟨.synthetic, l.text⟩

/-- The form without the place of its dots. -/
def UnaryForm.unplaced : UnaryForm → UnaryForm
  | .rest _ => .rest .synthetic
  | form => form

mutual

/-- The node without places. -/
def Node.unplaced : Node → Node
  | .leaf _ leaf => .leaf .synthetic leaf
  | .unary _ form arg => .unary .synthetic form.unplaced arg.unplaced
  | .binary _ form left right => .binary .synthetic form left.unplaced right.unplaced
  | .conditional _ test yes no => .conditional .synthetic test.unplaced yes.unplaced no.unplaced
  | .group _ form items => .group .synthetic form (Node.unplacedAll items)
  | .call _ form callee args => .call .synthetic form callee.unplaced (Node.unplacedAll args)
  | .function _ form name params body =>
    .function .synthetic form (Node.unplaced? name) (Node.unplacedAll params) body.unplaced
  | .arrow _ isAsync params body =>
    .arrow .synthetic isAsync (Node.unplacedAll params) body.unplaced
  | .class _ name members heritage =>
    .class .synthetic (Node.unplaced? name) (Node.unplacedAll members) (Node.unplaced? heritage)

/-- The nodes without places. -/
def Node.unplacedAll : List Node → List Node
  | [] => []
  | n :: rest => n.unplaced :: Node.unplacedAll rest

/-- A node that may be missing, without places. -/
def Node.unplaced? : Option Node → Option Node
  | none => none
  | some n => some n.unplaced

/-- The block without places. -/
def Block.unplaced : Block → Block
  | .mk _ stmts => .mk .synthetic (Stmt.unplacedAll stmts)

/-- A block that may be missing, without places. -/
def Block.unplaced? : Option Block → Option Block
  | none => none
  | some b => some b.unplaced

/-- The statements without places. -/
def Stmt.unplacedAll : List Stmt → List Stmt
  | [] => []
  | s :: rest => s.unplaced :: Stmt.unplacedAll rest

/-- A statement that may be missing, without places. -/
def Stmt.unplaced? : Option Stmt → Option Stmt
  | none => none
  | some s => some s.unplaced

/-- The statement without places. -/
def Stmt.unplaced : Stmt → Stmt
  | .empty _ => .empty .synthetic
  | .debugger _ => .debugger .synthetic
  | .expression _ n => .expression .synthetic n.unplaced
  | .declaration n => .declaration n.unplaced
  | .block b => .block b.unplaced
  | .return _ value => .return .synthetic (Node.unplaced? value)
  | .throw _ value => .throw .synthetic value.unplaced
  | .jump _ kind target => .jump .synthetic kind (target.map Label.unplaced)
  | .labeled _ label body => .labeled .synthetic label.unplaced body.unplaced
  | .withObject _ object body => .withObject .synthetic object.unplaced body.unplaced
  | .branch _ test yes no => .branch .synthetic test.unplaced yes.unplaced (Stmt.unplaced? no)
  | .switch _ subject cases => .switch .synthetic subject.unplaced (Case.unplacedAll cases)
  | .try _ body handler finalizer =>
    .try .synthetic body.unplaced (Handler.unplaced? handler) (Block.unplaced? finalizer)
  | .loop _ head body => .loop .synthetic head.unplaced body.unplaced

/-- The clauses of a `switch` without places. -/
def Case.unplacedAll : List Case → List Case
  | [] => []
  | .mk _ test body :: rest =>
    .mk .synthetic (Node.unplaced? test) (Stmt.unplacedAll body) :: Case.unplacedAll rest

/-- A `catch` clause that may be missing, without places. -/
def Handler.unplaced? : Option Handler → Option Handler
  | none => none
  | some (.mk _ param body) => some (.mk .synthetic (Node.unplaced? param) body.unplaced)

/-- The head of a loop without places. -/
def LoopHead.unplaced : LoopHead → LoopHead
  | .while test => .while test.unplaced
  | .doWhile test => .doWhile test.unplaced
  | .for init test update =>
    .for (Node.unplaced? init) (Node.unplaced? test) (Node.unplaced? update)
  | .forIn left right => .forIn left.unplaced right.unplaced
  | .forOf isAwait left right => .forOf isAwait left.unplaced right.unplaced

end

end LoopGuard
