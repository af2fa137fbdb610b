import LoopGuard.Syntax.Printer.Layout

/-!
# Printing nodes and statements

Trees as code, as the `Emitter` of `swc_ecma_codegen` writes them: four spaces to a level, and every
statement on a line of its own. Parentheses are nodes of the tree and are written where they were
read. Statements with synthetic spans are written like others, but without marks.
-/

namespace LoopGuard

namespace Print

open Emit Layout

/-- Ends a statement: the comments behind it, and its line if it has not ended. -/
def finish (span : Span) : Emit Unit := do
  trailing span
  line

/-- Writes a label, or the target of a jump. -/
def label (l : Label) : Emit Unit := do
  leading l.span
  markStart l.span
  put l.text

/-- Whether a statement is a block. -/
def isBlock : Stmt → Bool
  | .block _ => true
  | _ => false

/-- Whether a declaration ends in a semicolon. -/
def isVariables : Node → Bool
  | .group _ (.variables _) _ => true
  | _ => false

/-- The writer of a property of an object pattern. All but rest properties are marked behind. -/
def patternProperty (n : Node) (c : WrittenChild) : WrittenChild :=
  match n with
  | .unary _ (.rest _) _ => c
  | _ => ⟨c.span, do
      c.bare
      markEnd c.span⟩

/-- The writers of a node's children, as the form of the node wants them. -/
def groupChildren (form : GroupForm) (items : List Node) (children : List WrittenChild) :
    List WrittenChild :=
  if form == .objectPattern then List.zipWith patternProperty items children else children

/-- The words of a jump. -/
def jumpWord : JumpKind → String
  | .break => "break"
  | .continue => "continue"

mutual

/-- `emit_expr` and its like: writes a node, without the comments behind it. -/
def node : Node → Emit Unit
  | .leaf span l => leaf span l
  | .unary span form arg =>
    let spaced := match form with
      | .operator op => isWordOperator op || needsSpace op arg
      | _ => false
    unary span form spaced ⟨arg.span, node arg⟩
  | .binary span form left right =>
    binary span form left right ⟨left.span, node left⟩ ⟨right.span, node right⟩
  | .conditional span test yes no =>
    conditional span ⟨test.span, node test⟩ ⟨yes.span, node yes⟩ ⟨no.span, node no⟩
  | .group span form items =>
    group span form (endsInHole items) (groupChildren form items (nodes items))
  | .call span form callee args => call span form callee ⟨callee.span, node callee⟩ (nodes args)
  | .function span form name params body =>
    function span form (isPrivateKey name) (node? name) (nodes params) (block body)
  | .arrow span isAsync params body => arrow span isAsync (nodes params) ⟨body.span, node body⟩
  | .class span name members heritage => classOf span (node? name) (nodes members) (node? heritage)

/-- The writers of nodes. -/
def nodes : List Node → List WrittenChild
  | [] => []
  | n :: rest => ⟨n.span, node n⟩ :: nodes rest

/-- The writer of a node that may be missing. -/
def node? : Option Node → Option WrittenChild
  | none => none
  | some n => some ⟨n.span, node n⟩

/-- Writes a block; told whether to mark its opening brace, which statements do and most functions
do not. -/
def block : Block → Bool → Emit Unit
  | .mk span stmts => fun isMarked => braces isMarked span (statements stmts)

/-- The writers of statements. -/
def statements : List Stmt → List (Emit Unit)
  | [] => []
  | s :: rest => statement s :: statements rest

/-- `emit_stmt`: writes a statement and ends its line, unless it is a block. A body that is no block
goes on in the same line. -/
def statement : Stmt → Emit Unit
  | .block b => block b true
  | .empty span => do
    leading span
    put ";"
    finish span
  | .debugger span => do
    leading span
    markStart span
    put "debugger"
    markEnd span
    put ";"
    finish span
  | .expression span n => do
    leading span
    node n
    trailing n.span
    put ";"
    finish span
  | .declaration n => do
    node n
    if isVariables n then put ";"
    finish n.span
  | .return span value => do
    leading span
    markStart span
    put "return"
    if value.isSome then space
    WrittenChild.whole? (node? value)
    put ";"
    finish span
  | .throw span value => do
    leading span
    markStart span
    put "throw "
    node value
    trailing value.span
    put ";"
    finish span
  | .jump span kind target => do
    markStart span
    put (jumpWord kind)
    match target with
    | some l =>
      space
      label l
    | none => pure ()
    put ";"
    finish span
  | .labeled span l body => do
    leading span
    label l
    put ": "
    statement body
    finish span
  | .withObject span object body => do
    leading span
    markStart span
    put "with ("
    node object
    trailing object.span
    put ")"
    statement body
    finish span
  | .branch span test yes no => do
    leading span
    markStart span
    put "if ("
    node test
    trailing test.span
    put ") "
    statement yes
    match no with
    | none => pure ()
    | some s =>
      if isBlock yes then space
      put "else "
      statement s
    finish span
  | .switch span subject cases => do
    leading span
    markStart span
    put "switch("
    node subject
    trailing subject.span
    put ")\x7b"
    indentedLines (clauses cases)
    markLast span
    put "\x7d"
    finish span
  | .try span body catchClause finalizer => do
    leading span
    markStart span
    put "try "
    block body true
    handler? catchClause
    match finalizer with
    | some b =>
      put " finally"
      block b true
    | none => pure ()
    finish span
  | .loop span head body => do
    leading span
    markStart span
    loop span head (statement body)
    finish span

/-- Writes a loop, given the writer of its body. The five heads differ in their spaces as the
package has them. -/
def loop (span : Span) : LoopHead → Emit Unit → Emit Unit
  | .while test, body => do
    put "while("
    node test
    trailing test.span
    put ")"
    body
  | .doWhile test, body => do
    put "do "
    body
    put "while ("
    node test
    trailing test.span
    put ")"
    markEnd span
  | .for init test update, body => do
    put "for("
    WrittenChild.whole? (node? init)
    put ";"
    if test.isSome then space
    WrittenChild.whole? (node? test)
    put ";"
    if update.isSome then space
    WrittenChild.whole? (node? update)
    put ")"
    body
  | .forIn left right, body => do
    put "for("
    node left
    trailing left.span
    put " in "
    node right
    trailing right.span
    put ")"
    body
  | .forOf isAwait left right, body => do
    put (if isAwait then "for await (" else "for (")
    node left
    trailing left.span
    put " of "
    node right
    trailing right.span
    put ")"
    body

/-- `emit_switch_case`: the writers of the clauses of a `switch`, with their statements one level
further in. -/
def clauses : List Case → List (Emit Unit)
  | [] => []
  | .mk span test body :: rest =>
    (do
      leading span
      markStart span
      match test with
      | some n =>
        put "case "
        node n
        trailing n.span
      | none => put "default"
      put ":"
      indented (eachOnLine (statements body))) :: clauses rest

/-- Writes a `catch` clause that may be missing. -/
def handler? : Option Handler → Emit Unit
  | none => pure ()
  | some (.mk span param body) => do
    space
    leading span
    markStart span
    put "catch "
    match param with
    | some n =>
      put "("
      node n
      trailing n.span
      put ")"
    | none => pure ()
    space
    block body true

end

end Print

end LoopGuard
