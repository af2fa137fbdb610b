import LoopGuard.Syntax.Parser.Expression

/-!
# Statements

Blocks, declarations, branches, loops and jumps. Every statement starts at its first token and ends
with its last, so the span of a loop, which gives its key, starts at the word that opens it.
-/

namespace LoopGuard

namespace Parse

/-! ## Blocks -/

/-- `parse_block_body`: statements up to the closing brace, the opening one being taken; told
whether a directive may come first. Strict rules asked for by the first statement hold in the
rest. -/
def blockBody (g : Grammar) (directives : Bool) : Parse (List Stmt) := do
  let outer ← context
  let (stmts, _) ← loop (([], directives) : List Stmt × Bool) fun (stmts, directives) => do
    if ← atEnd then
      note (← here) (.expected "\x7d" "<eof>")
      return .done (stmts, false)
    if ← isAt "\x7d" then return .done (stmts, false)
    let stmt ← g.statement true false
    if directives && isUseStrict stmt then setContext { ← context with strict := true }
    return .again (stmt :: stmts, false)
  bump
  setContext outer
  return stmts.reverse

/-- A block; told whether a directive may open it. -/
def block (g : Grammar) (directives : Bool) : Parse Block := do
  let lo ← start
  expect "\x7b"
  let stmts ← blockBody g directives
  return .mk (← spanFrom lo) stmts

/-! ## Declarations -/

/-- `parse_var_declarator`: one declared pattern with its value; told whether it stands in the head
of a loop, where `of` or `in` may follow the pattern. -/
def declarator (g : Grammar) (inHead : Bool) (kind : VariableKind) : Parse Node := do
  let lo ← start
  let pattern ← g.binding (kind != .var)
  if ← both (return inHead) (isAtAny ["of", "in"]) then return pattern
  if ← eat "=" then
    let value ← g.assignment
    return .binary (← spanFrom lo) .declarator pattern value
  if kind == .const && (← context).strict then note lo .constantWithoutValue
  else if !pattern.isName then refuse lo .patternWithoutValue
  return pattern

/-- Steps over what a variable declaration is followed by where a semicolon is missing. -/
def recoverDeclaration (g : Grammar) : Parse Unit := do
  note (← here) .expectedSemicolon
  tryCatch (discard g.expression) fun _ => pure ()
  loop () fun _ => do
    if ← eatStatementEnd then return .done ()
    bump
    match ← peek with
    | some (.flawed _ _) => return .done ()
    | _ => return .again ()

/-- `parse_var_stmt`: a variable declaration; told whether it stands in the head of a loop. -/
def variableDeclaration (g : Grammar) (inHead : Bool) : Parse Node := do
  let lo ← start
  let kind : VariableKind :=
    match ← peek with
    | some (.word "const") => .const
    | some (.word "let") => .let
    | _ => .var
  bump
  let wordEnd ← lastEnd
  let declare : Parse Node :=
    if kind != .var || !inHead then allowingIn (declarator g inHead kind)
    else declarator g inHead kind
  let (decls, _) ← loop (([], true) : List Node × Bool) fun (decls, isFirst) => do
    if ← both (return !isFirst) (return !(← eat ",")) then return .done (decls, false)
    if (← isAt ";") || (← atEnd) then
      let comma ← lastStart
      note (if isFirst then wordEnd else comma) .trailingComma
      return .done (decls, false)
    return .again ((← declare) :: decls, false)
  if !inHead then
    if !(← eatStatementEnd) then recoverDeclaration g
  return .group (← spanFrom lo) (.variables kind) decls.reverse

/-- A declaration that starts at `lo` and whose current word is `using`; it is not enabled. -/
def usingDeclaration (g : Grammar) (lo : Nat) : Parse Stmt := do
  bump
  let _ ← loop true fun isFirst => do
    if ← both (return !isFirst) (return !(← eat ",")) then return .done false
    if (← isAt ";") || (← atEnd) then
      note (← lastStart) .trailingComma
      return .done false
    let _ ← declarator g false .var
    return .again false
  note lo .usingDisabled
  return .empty (← spanFrom lo)

/-! ## Loops -/

/-- A loop body. -/
def loopBody (g : Grammar) : Parse Stmt :=
  within ({ · with allowBreak := true, allowContinue := true }) (g.statement false false)

/-- An expression between parentheses, as statements have behind their first word. -/
def parenthesizedTest (g : Grammar) : Parse Node := do
  expect "("
  let test ← allowingIn g.expression
  expect ")"
  return test

/-- `parse_while_stmt`: a `while` loop. -/
def whileLoop (g : Grammar) : Parse Stmt := do
  let lo ← start
  bump
  let test ← parenthesizedTest g
  let body ← loopBody g
  return .loop (← spanFrom lo) (.while test) body

/-- `parse_do_stmt`: a `do` loop. The semicolon behind it may be missing anywhere. -/
def doLoop (g : Grammar) : Parse Stmt := do
  let lo ← start
  bump
  let body ← loopBody g
  expect "while"
  let test ← parenthesizedTest g
  let _ ← eatStatementEnd
  return .loop (← spanFrom lo) (.doWhile test) body

/-- `parse_for_each_head`: the head of a loop over the elements or keys of something, from its word
on. -/
def forEachHead (g : Grammar) (left : Node) : Parse LoopHead := do
  let isOf ← isAt "of"
  bump
  if isOf then return .forOf false left (← allowingIn g.assignment)
  else return .forIn left (← allowingIn g.expression)

/-- `parse_normal_for_head`: the head of a counting loop, from behind its first semicolon on. -/
def forHead (g : Grammar) (init : Option Node) : Parse LoopHead := do
  let test ←
    if ← eat ";" then pure none
    else
      let test ← allowingIn g.expression
      expect ";"
      pure (some test)
  let update ← if ← isAt ")" then pure none else some <$> allowingIn g.expression
  return .for init test update

/-- Notes what is wrong with the variables of a loop over elements or keys. -/
def checkLoopVariables (decl : Node) : Parse Unit := do
  let .group _ _ decls := decl | pure ()
  let patternOf : Node → Node
    | .binary _ .declarator pattern _ => pattern
    | n => n
  match decls with
  | [.binary _ .declarator pattern _] =>
    if (← context).strict || (← isAt "of") then note pattern.span.lo .loopVariableWithValue
  | _ => for d in decls.drop 1 do note (patternOf d).span.lo .tooManyLoopVariables

/-- `parse_for_head`: what stands between the parentheses of a `for` loop. -/
def forInside (g : Grammar) : Parse LoopHead := do
  let isLet ← both (isAt "let") (return ((← peekAhead).map Token.followsLet).getD false)
  if isLet || (← isAtAny ["const", "var"]) then
    let decl ← within ({ · with allowIn := false }) (variableDeclaration g true)
    if ← isAtAny ["of", "in"] then
      checkLoopVariables decl
      return ← forEachHead g decl
    expect ";"
    return ← forHead g (some decl)
  if ← eat ";" then return ← forHead g none
  let init ← within ({ · with allowIn := false }) g.expression
  if ← isAtAny ["of", "in"] then
    let pattern ← toPattern .target init
    return ← forEachHead g pattern
  expect ";"
  forHead g (some init)

/-- `parse_for_stmt`: a `for` loop, of which only one over values may have `await` behind its
word. -/
def forLoop (g : Grammar) : Parse Stmt := do
  let lo ← start
  bump
  let awaitAt ← if ← eat "await" then some <$> lastStart else pure none
  expect "("
  let head ← within ({ · with loopHead := true, awaitLoopHead := awaitAt.isSome }) (forInside g)
  expect ")"
  let body ← loopBody g
  let span ← spanFrom lo
  match head, awaitAt with
  | .forOf _ left right, _ => return .loop span (.forOf awaitAt.isSome left right) body
  | _, some at_ => refuse at_ .awaitWithoutOf
  | _, none => return .loop span head body

/-! ## Branches -/

/-- `parse_if_stmt`: an `if` statement. -/
def branch (g : Grammar) : Parse Stmt := do
  let lo ← start
  bump
  let test ← parenthesizedTest g
  let yes ← g.statement false false
  let no ← if ← eat "else" then some <$> g.statement false false else pure none
  return .branch (← spanFrom lo) test yes no

/-- The statements of a `case` clause. -/
def caseBody (g : Grammar) : Parse (List Stmt) := do
  let stmts ← loop ([] : List Stmt) fun stmts => do
    if (← atEnd) || (← isAtAny ["case", "default", "\x7d"]) then return .done stmts
    return .again ((← g.statement true false) :: stmts)
  return stmts.reverse

/-- `parse_switch_stmt`: a `switch` statement, in which at most one clause is the default one. -/
def switch (g : Grammar) : Parse Stmt := do
  let lo ← start
  bump
  let subject ← parenthesizedTest g
  expect "\x7b"
  let cases ← within ({ · with allowBreak := true }) do
    let (cases, _) ← loop (([], false) : List Case × Bool) fun (cases, hasDefault) => do
      if !(← isAtAny ["case", "default"]) then return .done (cases, hasDefault)
      let caseStart ← start
      let isCase ← isAt "case"
      bump
      let test ←
        if isCase then some <$> allowingIn g.expression
        else
          if hasDefault then refuse (← lastStart) .multipleDefaults
          pure none
      expect ":"
      let body ← caseBody g
      return .again (.mk (← spanFrom caseStart) test body :: cases, hasDefault || !isCase)
    return cases.reverse
  expect "\x7d"
  return .switch (← spanFrom lo) subject cases

/-! ## Jumps -/

/-- `parse_break_continue_stmt`: a `break` or `continue` statement. There must be something to
leave, and a label it names must be around it. -/
def jump (kind : JumpKind) : Parse Stmt := do
  let lo ← start
  bump
  let target ←
    if ← eatStatementEnd then pure none
    else
      let label ← reference
      expectStatementEnd
      pure (some label)
  let span ← spanFrom lo
  let ctx ← context
  let labels := (← get).labels
  let known := (target.map fun l => labels.contains l.text).getD true
  match kind with
  | .break =>
    if !known then note lo .breakTarget
    else if !ctx.allowBreak then note lo .breakOutside
  | .continue =>
    if !ctx.allowContinue then note lo .continueTarget
    else if !known then note lo .jumpAcrossFunction
  return .jump span kind target

/-- `parse_return_stmt`: a `return` statement. -/
def returnStatement (g : Grammar) : Parse Stmt := do
  let lo ← start
  bump
  let result ← tryCatch (Except.ok <$> do
      let value ← if ← atStatementEnd then pure none else some <$> allowingIn g.expression
      expectStatementEnd
      return value) fun d => pure (Except.error d)
  if !(← context).inFunction then note lo .returnOutside
  match result with
  | .ok value => return .return (← spanFrom lo) value
  | .error d => throw d

/-- `parse_throw_stmt`: a `throw` statement, whose value starts on its line. -/
def throwStatement (g : Grammar) : Parse Stmt := do
  let lo ← start
  bump
  if ← lineBreakBefore then refuse (← here) .lineBreakAfterThrow
  let value ← allowingIn g.expression
  expectStatementEnd
  return .throw (← spanFrom lo) value

/-! ## Other statements -/

/-- The `catch` clause that may stand here. -/
def handler? (g : Grammar) : Parse (Option Handler) := do
  let lo ← start
  if ← eat "catch" then
    let param ←
      if ← eat "(" then
        let param ← g.binding false
        expect ")"
        pure (some param)
      else pure none
    let body ← g.block false
    return some (.mk (← spanFrom lo) param body)
  else return none

/-- The `finally` clause that may stand here. -/
def finalizer? (g : Grammar) : Parse (Option Block) := do
  if ← eat "finally" then some <$> g.block false else return none

/-- `parse_try_stmt`: a `try` statement with at least one of its two clauses. -/
def tryStatement (g : Grammar) : Parse Stmt := do
  let lo ← start
  bump
  let body ← g.block false
  let clauseStart ← start
  let handler ← handler? g
  let finalizer ← finalizer? g
  if handler.isNone && finalizer.isNone then note clauseStart .expectedSemicolon
  return .try (← spanFrom lo) body handler finalizer

/-- A `catch` or `finally` clause without its `try`, which is noted and stepped over. -/
def strayClause (g : Grammar) : Parse Stmt := do
  let lo ← start
  note lo .expectedSemicolon
  tryCatch (discard (handler? g)) fun _ => pure ()
  tryCatch (discard (finalizer? g)) fun _ => pure ()
  return .empty (← spanFrom lo)

/-- `parse_with_stmt`: a `with` statement, which is a fault in modules. -/
def withStatement (g : Grammar) : Parse Stmt := do
  let lo ← start
  noteInModule lo .withInStrict
  bump
  let object ← parenthesizedTest g
  let body ← within ({ · with inFunction := true }) (g.statement false false)
  return .withObject (← spanFrom lo) object body

/-- `parse_labelled_stmt`: a statement behind its label. -/
def labeled (g : Grammar) (label : Label) : Parse Stmt :=
  within ({ · with allowBreak := true }) do
    let isKnown := (← get).labels.contains label.text
    modify fun r => { r with labels := label.text :: r.labels }
    let body ←
      if ← isAt "function" then
        let f ← function g (← start) false true false
        if let .function span (.function isAsync isGenerator) _ _ _ := f then
          if (← context).strict then note span.lo .labeledFunctionInStrict
          if isAsync || isGenerator then note span.lo .labeledGeneratorOrAsync
        pure (Stmt.declaration f)
      else g.statement false false
    if isKnown then note label.span.lo (.duplicateLabel label.text)
    modify fun r => { r with labels := r.labels.erase label.text }
    return .labeled (← spanFrom label.span.lo) label body

/-- A function or class declaration, noted where declarations are not allowed. -/
def declaration (allowed : Bool) (p : Parse Node) : Parse Stmt := do
  if !allowed then note (← here) .declarationNotAllowed
  return .declaration (← p)

/-- A statement that starts with an expression: an expression statement or a labeled statement. -/
def expressionStatement (g : Grammar) (lo : Nat) : Parse Stmt := do
  let n ← allowingIn g.expression
  if let .leaf span (.name text) := n then
    if ← eat ":" then return ← labeled g ⟨span, text⟩
    if text == "enum" || text == "interface" then noteInModule span.lo (.reservedInStrict text)
  if ← eatStatementEnd then return .expression (← spanFrom lo) n
  if (← need).isBinaryOperator then
    note (← here) .expectedSemicolon
    let n ← g.operators n 0
    return .expression (← spanFrom lo) n
  refuse (← here) .expectedStatementEnd

/-- Whether a declaration that opens with `using` starts here. -/
def atUsing : Parse Bool :=
  both (isAt "using") (both (return !(← lineBreakAhead)) (do isName (← peekAhead)))

/-- A statement whose first word, `await`, is taken and stands at an offset: a declaration, or
operands joined by operators. -/
def awaitStatement (g : Grammar) (lo : Nat) : Parse Stmt := do
  if ← atUsing then return ← usingDeclaration g lo
  let n ← awaitTail g lo
  let n ← allowingIn (g.operators n 0)
  let _ ← eatStatementEnd
  return .expression (← spanFrom lo) n

/-- A statement that no word of its own opens. -/
def otherStatement (g : Grammar) (lo : Nat) (declarations : Bool) : Parse Stmt := do
  if ← eat ";" then return .empty (← spanFrom lo)
  let isAsyncFunction ← both (isAt "async") (both (isAhead "function") (return !(← lineBreakAhead)))
  if isAsyncFunction then
    bump
    return .declaration (← function g lo true true false)
  if ← isAt "\x7b" then return .block (← g.block false)
  if ← both (return declarations) atUsing then return ← usingDeclaration g lo
  expressionStatement g lo

/-- A statement that only a script or module can have at its top is refused elsewhere, unless it is
an expression. -/
def nestedImport (g : Grammar) (lo : Nat) : Parse Stmt := do
  let isExpression ←
    both (isAt "import") (return isText "(" (← peekAhead) || isText "." (← peekAhead))
  if isExpression then
    let n ← g.expression
    let _ ← eatStatementEnd
    return .expression (← spanFrom lo) n
  refuse (← here) .importExportOutsideModule

/-- `parse_stmt_like`: a statement, chosen by its first token; told whether declarations are
allowed, and whether it stands at the top. -/
def statement (g : Grammar) (declarations top : Bool) : Parse Stmt := do
  let lo ← start
  if ← isAtAny ["import", "export"] then return ← nestedImport g lo
  let isAwait ← both (isAt "await") (both (return top || declarations)
    (if top then return true else isAhead "using"))
  if isAwait then
    -- A text with such a statement at its top is a module.
    if top then modify ({ · with foundModuleItem := true })
    bump
    return ← awaitStatement g lo
  match ← need with
  | .word "break" => jump .break
  | .word "continue" => jump .continue
  | .word "debugger" =>
    bump
    expectStatementEnd
    return .debugger (← spanFrom lo)
  | .word "do" => doLoop g
  | .word "for" => forLoop g
  | .word "function" => declaration declarations (function g lo false true false)
  | .word "class" => declaration declarations («class» g lo true)
  | .word "if" => branch g
  | .word "return" => returnStatement g
  | .word "switch" => switch g
  | .word "throw" => throwStatement g
  | .word "catch" | .word "finally" => strayClause g
  | .word "try" => tryStatement g
  | .word "with" => withStatement g
  | .word "while" => whileLoop g
  | .word "var" => return .declaration (← variableDeclaration g false)
  | .word "const" =>
    if declarations then return .declaration (← variableDeclaration g false)
    else otherStatement g lo declarations
  | .word "let" =>
    let isDeclaration ← both (return declarations)
      (return ((← peekAhead).map Token.followsLet).getD false)
    if isDeclaration then return .declaration (← variableDeclaration g false)
    else otherStatement g lo declarations
  | _ => otherStatement g lo declarations

end Parse

end LoopGuard
