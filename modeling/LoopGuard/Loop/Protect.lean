import LoopGuard.Loop.Call

/-!
# Protecting loops

Model of `LoopProtector` and of `loop_parts`, `prepend_to_body` and `block_of`: a walk over a tree
that puts a reset call in front of every loop and a guard check first into its body.

A reset call needs a list of statements to stand in. Lists take it as they are; an arm of an `if`
that is a loop becomes a block. Behind a label and in the body of a `with` there is no place for it:
a loop there is an offence.

Where `LoopProtector` has a method for a kind of node, the walk does what the method does
(`visit_mut_stmts`, `visit_mut_module_items`, `visit_mut_switch_case`, `visit_mut_if_stmt`,
`visit_mut_labeled_stmt`, `visit_mut_with_stmt`). Elsewhere it goes through the fields of a node in
the order in which `swc_ecma_visit` does: the test of a `do` loop before its body, the members of a
class before its heritage.

The program edits the tree in place, collects the sites, and from its first error on leaves the rest
of the tree alone. Here the walk answers a new tree together with the events of the whole walk, and
what it does up to the first offence is read off the events by `WalkEvent.sites` and
`WalkEvent.offence?`. After an offence the tree is never used. The walk with the error flag is
proved to agree with this one. The inserted calls hold no loops, so it makes no difference that the
program puts the guard check into a body before it goes through the body. Both calls always exist,
since the alias has been checked, so they are no source of errors here.

Results:
* `Traced.events_bind`, `Traced.value_bind`: events of steps in a row follow each other.
-/

namespace LoopGuard

/-- A statement whose body cannot be a loop: a labeled one, or a `with`. -/
inductive LoopParent where
  | labeled
  | withObject
  deriving Repr, DecidableEq, Inhabited

namespace LoopParent

/-- The ESTree name of the statement, as the error shows it. -/
def syntaxName : LoopParent → String
  | labeled => "LabeledStatement"
  | withObject => "WithStatement"

end LoopParent

/-- A loop that cannot be protected: the statement it is the body of, and its own position. -/
structure Offence where
  parent : LoopParent
  position : Position
  deriving Repr, DecidableEq, Inhabited

/-- What a walk meets: a loop it protects, or one it cannot protect. Both are told when they are
met, before what is inside them. -/
inductive WalkEvent where
  | guarded (site : LoopSite)
  | offended (offence : Offence)
  deriving Repr, DecidableEq, Inhabited

/-- A value, and what was met on the way to it. The steps of a walk are put together with its
`do`. -/
structure Traced (α : Type) where
  value : α
  events : List WalkEvent

namespace Traced

instance : Monad Traced where
  pure a := ⟨a, []⟩
  bind t f := ⟨(f t.value).value, t.events ++ (f t.value).events⟩

/-- Meets something. -/
def emit (e : WalkEvent) : Traced Unit := ⟨(), [e]⟩

@[simp] theorem value_pure (a : α) : (pure a : Traced α).value = a := rfl

@[simp] theorem events_pure (a : α) : (pure a : Traced α).events = [] := rfl

@[simp] theorem value_bind (t : Traced α) (f : α → Traced β) :
    (t >>= f).value = (f t.value).value := rfl

@[simp] theorem events_bind (t : Traced α) (f : α → Traced β) :
    (t >>= f).events = t.events ++ (f t.value).events := rfl

@[simp] theorem events_emit (e : WalkEvent) : (emit e).events = [e] := rfl

end Traced

/-- What a walk needs to know about the text it walks over: the file, the alias, the `position_of`
of the text and the resolver of an input map. -/
structure Protector where
  file : String
  guardAlias : Alias
  /-- The position of an offset. -/
  place : Nat → Position
  /-- The position that diagnostics name for a position, if it is another one. -/
  resolve : Position → Option Position

namespace Protector

/-- The site of a loop, as `protect_loop` makes it. Its original position is what the resolver says,
or else the generated one. -/
def site (p : Protector) (span : Span) (head : LoopHead) (context : InsertionContext) : LoopSite :=
  let generated := p.place span.lo
  .of p.file head.kind context generated ((p.resolve generated).getD generated)

/-- The offence of a loop that is the body of another statement, as `reject_loop_body` reports
it. -/
def offence (p : Protector) (parent : LoopParent) (span : Span) : Offence :=
  ⟨parent, p.place span.lo⟩

/-- A statement behind the reset call it needs, if it needs one. -/
def sequenced (reset : Option Stmt) (stmt : Stmt) : List Stmt := reset.toList ++ [stmt]

/-- A statement alone, in a block if it needs a reset call: what `protect_arm` makes of an arm. -/
def alone (reset : Option Stmt) (stmt : Stmt) : Stmt :=
  match reset with
  | some r => .block (.mk .synthetic [r, stmt])
  | none => stmt

/-- A loop whose body starts with its guard check, and its reset call: the two edits of
`protect_loop`. The body is a block by now, its own or one made by `prepend_to_body`. -/
def guarded (p : Protector) (site : LoopSite) (span : Span) (head : LoopHead) (bodySpan : Span)
    (stmts : List Stmt) : Option Stmt × Stmt :=
  (some (.reset p.guardAlias site.resetOptions),
    .loop span head (.block (.mk bodySpan (.guard p.guardAlias site.key :: stmts))))

mutual

/-- Protects the loops inside a node: those of the functions and classes in it. -/
def protectNode (p : Protector) : Node → Traced Node
  | .leaf span leaf => return .leaf span leaf
  | .unary span form arg => return .unary span form (← protectNode p arg)
  | .binary span form left right =>
    return .binary span form (← protectNode p left) (← protectNode p right)
  | .conditional span test yes no =>
    return .conditional span (← protectNode p test) (← protectNode p yes) (← protectNode p no)
  | .group span form items => return .group span form (← protectNodes p items)
  | .call span form callee args =>
    return .call span form (← protectNode p callee) (← protectNodes p args)
  | .function span form name params body =>
    return .function span form (← protectNode? p name) (← protectNodes p params)
      (← protectBlock p body)
  | .arrow span isAsync params body =>
    return .arrow span isAsync (← protectNodes p params) (← protectNode p body)
  | .class span name members heritage =>
    return .class span (← protectNode? p name) (← protectNodes p members)
      (← protectNode? p heritage)

/-- Protects the loops inside nodes, in their order. -/
def protectNodes (p : Protector) : List Node → Traced (List Node)
  | [] => return []
  | n :: rest => return (← protectNode p n) :: (← protectNodes p rest)

/-- Protects the loops inside a node that may be missing. -/
def protectNode? (p : Protector) : Option Node → Traced (Option Node)
  | none => return none
  | some n => return some (← protectNode p n)

/-- Protects the loops of a block. -/
def protectBlock (p : Protector) : Block → Traced Block
  | .mk span stmts => return .mk span (← protectStmts p .sequence stmts)

/-- Protects the loops of a block that may be missing. -/
def protectBlock? (p : Protector) : Option Block → Traced (Option Block)
  | none => return none
  | some b => return some (← protectBlock p b)

/-- `protect_sequence`: protects the loops of a statement list, where `context` says what list it
is. -/
def protectStmts (p : Protector) (context : InsertionContext) : List Stmt → Traced (List Stmt)
  | [] => return []
  | s :: rest => do
    let (reset, s) ← protectStmt p context s
    return sequenced reset s ++ (← protectStmts p context rest)

/-- Protects the loops of a statement. If it is a loop itself, its reset call is answered too, for
the list or arm it stands in. A loop whose body is a block keeps the block; another body is put into
one, with its own reset call in front if it is a loop. -/
def protectStmt (p : Protector) (context : InsertionContext) : Stmt → Traced (Option Stmt × Stmt)
  | .empty span => return (none, .empty span)
  | .debugger span => return (none, .debugger span)
  | .expression span n => return (none, .expression span (← protectNode p n))
  | .declaration n => return (none, .declaration (← protectNode p n))
  | .block b => return (none, .block (← protectBlock p b))
  | .return span value => return (none, .return span (← protectNode? p value))
  | .throw span value => return (none, .throw span (← protectNode p value))
  | .jump span kind target => return (none, .jump span kind target)
  | .labeled span label (.loop loopSpan head body) => do
    Traced.emit (.offended (p.offence .labeled loopSpan))
    return (none, .labeled span label (.loop loopSpan head body))
  | .labeled span label body => do
    let (_, body) ← protectStmt p .sequence body
    return (none, .labeled span label body)
  | .withObject span object (.loop loopSpan head body) => do
    Traced.emit (.offended (p.offence .withObject loopSpan))
    return (none, .withObject span object (.loop loopSpan head body))
  | .withObject span object body => do
    let object ← protectNode p object
    let (_, body) ← protectStmt p .sequence body
    return (none, .withObject span object body)
  | .branch span test yes no => do
    let test ← protectNode p test
    let (reset, yes) ← protectStmt p .branchArm yes
    return (none, .branch span test (alone reset yes) (← protectArm? p no))
  | .switch span subject cases =>
    return (none, .switch span (← protectNode p subject) (← protectCases p cases))
  | .try span body handler finalizer =>
    return (none, .try span (← protectBlock p body) (← protectHandler? p handler)
      (← protectBlock? p finalizer))
  | .loop span head (.block (.mk bodySpan stmts)) => do
    let site := p.site span head context
    Traced.emit (.guarded site)
    let head ← protectHead p head
    let stmts ← protectStmts p .sequence stmts
    return p.guarded site span head bodySpan stmts
  | .loop span head body => do
    let site := p.site span head context
    Traced.emit (.guarded site)
    let head ← protectHead p head
    let (reset, body) ← protectStmt p .sequence body
    return p.guarded site span head .synthetic (sequenced reset body)

/-- Protects the loops of the other arm of an `if`, which may be missing. -/
def protectArm? (p : Protector) : Option Stmt → Traced (Option Stmt)
  | none => return none
  | some s => do
    let (reset, s) ← protectStmt p .branchArm s
    return some (alone reset s)

/-- Protects the loops inside a loop's head. -/
def protectHead (p : Protector) : LoopHead → Traced LoopHead
  | .while test => return .while (← protectNode p test)
  | .doWhile test => return .doWhile (← protectNode p test)
  | .for init test update =>
    return .for (← protectNode? p init) (← protectNode? p test) (← protectNode? p update)
  | .forIn left right => return .forIn (← protectNode p left) (← protectNode p right)
  | .forOf isAwait left right =>
    return .forOf isAwait (← protectNode p left) (← protectNode p right)

/-- Protects the loops of the clauses of a `switch`, the test of a clause before its body. -/
def protectCases (p : Protector) : List Case → Traced (List Case)
  | [] => return []
  | .mk span test body :: rest => do
    let test ← protectNode? p test
    let body ← protectStmts p .switchArm body
    return .mk span test body :: (← protectCases p rest)

/-- Protects the loops of a `catch` clause that may be missing. -/
def protectHandler? (p : Protector) : Option Handler → Traced (Option Handler)
  | none => return none
  | some (.mk span param body) => do
    let param ← protectNode? p param
    return some (.mk span param (← protectBlock p body))

end

/-- Protects the loops of an element of a script or module. A loop is a statement; imports and
exports only hold loops inside. -/
def protectItem (p : Protector) : Item → Traced (List Item)
  | .stmt s => do
    let (reset, s) ← protectStmt p .sequence s
    return (sequenced reset s).map .stmt
  | .exportDecl span decl => return [.exportDecl span (← protectNode p decl)]
  | .exportValue span value => return [.exportValue span (← protectNode p value)]
  | .exportDefault span decl => return [.exportDefault span (← protectNode p decl)]
  | .imports span phase specifiers source endsInComma =>
    return [.imports span phase specifiers source endsInComma]
  | .exportList span specifiers source endsInComma =>
    return [.exportList span specifiers source endsInComma]
  | .exportAll span source => return [.exportAll span source]

/-- Protects the loops of elements, in their order. -/
def protectItems (p : Protector) : List Item → Traced (List Item)
  | [] => return []
  | i :: rest => return (← protectItem p i) ++ (← protectItems p rest)

/-- Protects the loops of a script or module. -/
def protectProgram (p : Protector) (program : Program) : Traced Program := do
  return { program with items := ← protectItems p program.items }

end Protector

namespace WalkEvent

/-- The sites of the loops met before the first offence: those that are collected and logged. -/
def sites : List WalkEvent → List LoopSite
  | [] => []
  | guarded site :: rest => site :: sites rest
  | offended _ :: _ => []

/-- The first offence, if there is one: the error the walk ends with. -/
def offence? : List WalkEvent → Option Offence
  | [] => none
  | guarded _ :: rest => offence? rest
  | offended o :: _ => some o

end WalkEvent

end LoopGuard
