import LoopGuard.Syntax.Tree

/-!
# The parts of a tree

All statements and nodes of a syntax tree in one list, in the order in which a tree is walked, each
statement with the slot it fills and the statement in front of it. What is said about "every loop of
a tree", "every function body" or "everything that was inserted" is said about this list.

Results:
* `Program.loops`, `Program.bodies`: the loops and the function bodies of a script or module.
* `Stmt.insideAll_append`: the parts of a list of statements in two pieces.
-/

namespace LoopGuard

/-! ## Statements in their surroundings -/

/-- The slot of a tree that a statement fills. -/
inductive Slot where
  /-- An element of a block, of a function body, or of the top of a script or module. -/
  | list
  /-- An element of the body of a `case` or `default` clause. -/
  | clause
  /-- An arm of an `if`. -/
  | arm
  | loopBody
  | labelBody
  | withBody
  deriving Repr, DecidableEq, Inhabited

/-- A statement in its surroundings. -/
structure Seat where
  slot : Slot
  /-- The statement right before it in the list it is an element of, if there is one. -/
  before : Option Stmt
  stmt : Stmt

/-- A piece of a tree. -/
inductive Part where
  | node (node : Node)
  | stmt (seat : Seat)

mutual

/-- The parts inside a node. -/
def Node.inside : Node → List Part
  | .leaf _ _ => []
  | .unary _ _ arg => .node arg :: arg.inside
  | .binary _ _ left right => .node left :: left.inside ++ .node right :: right.inside
  | .conditional _ test yes no =>
    .node test :: test.inside ++ .node yes :: yes.inside ++ .node no :: no.inside
  | .group _ _ items => Node.insideAll items
  | .call _ _ callee args => .node callee :: callee.inside ++ Node.insideAll args
  | .function _ _ name params body => Node.inside? name ++ Node.insideAll params ++ body.inside
  | .arrow _ _ params body => Node.insideAll params ++ .node body :: body.inside
  | .class _ name members heritage =>
    Node.inside? name ++ Node.insideAll members ++ Node.inside? heritage

/-- The nodes of a list and the parts inside them. -/
def Node.insideAll : List Node → List Part
  | [] => []
  | n :: rest => .node n :: n.inside ++ Node.insideAll rest

/-- A node that may be missing and the parts inside it. -/
def Node.inside? : Option Node → List Part
  | none => []
  | some n => .node n :: n.inside

/-- The parts inside a block. -/
def Block.inside : Block → List Part
  | .mk _ stmts => Stmt.insideAll .list none stmts

/-- The parts inside a block that may be missing. -/
def Block.inside? : Option Block → List Part
  | none => []
  | some b => b.inside

/-- The statements of a list and the parts inside them; told what slot the elements fill and what
stands in front of the first one. -/
def Stmt.insideAll (slot : Slot) (before : Option Stmt) : List Stmt → List Part
  | [] => []
  | s :: rest => .stmt ⟨slot, before, s⟩ :: s.inside ++ Stmt.insideAll slot (some s) rest

/-- A statement that may be missing and the parts inside it. -/
def Stmt.inside? (slot : Slot) : Option Stmt → List Part
  | none => []
  | some s => .stmt ⟨slot, none, s⟩ :: s.inside

/-- The parts inside a statement. -/
def Stmt.inside : Stmt → List Part
  | .empty _ | .debugger _ | .jump _ _ _ => []
  | .expression _ n | .declaration n | .throw _ n => .node n :: n.inside
  | .block b => b.inside
  | .return _ value => Node.inside? value
  | .labeled _ _ body => .stmt ⟨.labelBody, none, body⟩ :: body.inside
  | .withObject _ object body =>
    .node object :: object.inside ++ .stmt ⟨.withBody, none, body⟩ :: body.inside
  | .branch _ test yes no =>
    .node test :: test.inside ++ .stmt ⟨.arm, none, yes⟩ :: yes.inside ++ Stmt.inside? .arm no
  | .switch _ subject cases => .node subject :: subject.inside ++ Case.insideAll cases
  | .try _ body handler finalizer =>
    body.inside ++ Handler.inside? handler ++ Block.inside? finalizer
  | .loop _ head body => head.inside ++ .stmt ⟨.loopBody, none, body⟩ :: body.inside

/-- The parts inside the clauses of a `switch`. -/
def Case.insideAll : List Case → List Part
  | [] => []
  | .mk _ test body :: rest =>
    Node.inside? test ++ Stmt.insideAll .clause none body ++ Case.insideAll rest

/-- The parts inside a `catch` clause that may be missing. -/
def Handler.inside? : Option Handler → List Part
  | none => []
  | some (.mk _ param body) => Node.inside? param ++ body.inside

/-- The parts inside the head of a loop. -/
def LoopHead.inside : LoopHead → List Part
  | .while test | .doWhile test => .node test :: test.inside
  | .for init test update => Node.inside? init ++ Node.inside? test ++ Node.inside? update
  | .forIn left right | .forOf _ left right =>
    .node left :: left.inside ++ .node right :: right.inside

end

attribute [simp] Node.inside Node.insideAll Node.inside? Block.inside Block.inside? Stmt.inside
  Stmt.insideAll Stmt.inside? Case.insideAll Handler.inside? LoopHead.inside

/-- The parts of the elements of a script or module; told which statement stands in front of the
first one. -/
def Item.parts (before : Option Stmt) : List Item → List Part
  | [] => []
  | .stmt s :: rest => .stmt ⟨.list, before, s⟩ :: s.inside ++ Item.parts (some s) rest
  | .exportDecl _ n :: rest | .exportValue _ n :: rest | .exportDefault _ n :: rest =>
    .node n :: n.inside ++ Item.parts none rest
  | .imports .. :: rest | .exportList .. :: rest | .exportAll .. :: rest => Item.parts none rest

/-- All parts of a script or module. -/
def Program.parts (p : Program) : List Part := Item.parts none p.items

theorem getLast?_cons_or (s : Stmt) (rest : List Stmt) (before : Option Stmt) :
    (s :: rest).getLast?.or before = rest.getLast?.or (some s) := by
  cases rest <;> simp [List.getLast?_cons]

theorem Stmt.insideAll_append (slot : Slot) (before : Option Stmt) (xs ys : List Stmt) :
    Stmt.insideAll slot before (xs ++ ys) =
      Stmt.insideAll slot before xs ++ Stmt.insideAll slot (xs.getLast?.or before) ys := by
  induction xs generalizing before with
  | nil => simp [Stmt.insideAll]
  | cons s rest ih =>
    rw [List.cons_append, Stmt.insideAll, Stmt.insideAll, ih, getLast?_cons_or, List.append_assoc]

theorem Item.parts_append (before : Option Stmt) (stmts : List Stmt) (items : List Item) :
    Item.parts before (stmts.map .stmt ++ items) =
      Stmt.insideAll .list before stmts ++ Item.parts (stmts.getLast?.or before) items := by
  induction stmts generalizing before with
  | nil => simp
  | cons s rest ih =>
    rw [List.map_cons, List.cons_append, Item.parts, Stmt.insideAll, ih, getLast?_cons_or,
      List.append_assoc]

/-! ## Loops and function bodies -/

/-- A loop in its surroundings. -/
structure LoopSeat where
  slot : Slot
  /-- The statement right before it in the list it is an element of, if there is one. -/
  before : Option Stmt
  span : Span
  head : LoopHead
  body : Stmt

namespace Part

/-- The loop that a part is. -/
def loop? : Part → Option LoopSeat
  | stmt ⟨slot, before, .loop span head body⟩ => some ⟨slot, before, span, head, body⟩
  | _ => none

/-- The body of the function that a part is: of a function, method, accessor, constructor, arrow
function with a block, or the block of a `static` member. -/
def body? : Part → Option Block
  | node (.function _ _ _ _ body) => some body
  | _ => none

end Part

/-- The loops of a script or module, outer ones first. -/
def Program.loops (p : Program) : List LoopSeat := p.parts.filterMap Part.loop?

/-- The function bodies of a script or module. -/
def Program.bodies (p : Program) : List Block := p.parts.filterMap Part.body?

end LoopGuard
