import LoopGuard.Syntax.Parser.Member

/-!
# Expressions

Operators by strength, member accesses and calls, and the primary expressions, among them what
stands between parentheses, which may turn out to be the parameters of an arrow function. The
functions follow those of `swc_ecma_parser`, from `parse_assignment_expr` and `parse_bin_expr` down
to `parse_subscripts` and `parse_primary_expr`, in what they accept, in the faults they note and in
the spans they give.
-/

namespace LoopGuard

namespace Node

/-- Whether the node is an arrow function. -/
def isArrow : Node → Bool
  | arrow .. => true
  | function _ (.arrow _) _ _ _ => true
  | _ => false

/-- Whether the node is the word `super`. -/
def isSuper : Node → Bool
  | leaf _ .super => true
  | _ => false

/-- Whether the node is the callee of a dynamic import. -/
def isImport : Node → Bool
  | leaf _ (.importKeyword _) => true
  | _ => false

end Node

namespace Parse

/-! ## Operators -/

/-- How tightly a binary operator binds, if the text is one. `**` binds tightest, `||` and `??`
least. -/
def strength? (op : String) : Option Nat :=
  if op == "||" || op == "??" then some 1
  else if op == "&&" then some 2
  else if op == "|" then some 3
  else if op == "^" then some 4
  else if op == "&" then some 5
  else if ["==", "!=", "===", "!=="].contains op then some 6
  else if ["<", "<=", ">", ">=", "in", "instanceof"].contains op then some 7
  else if ["<<", ">>", ">>>"].contains op then some 8
  else if op == "+" || op == "-" then some 9
  else if ["*", "/", "%"].contains op then some 10
  else if op == "**" then some 11
  else none

/-- The binary operator that the current token is in the present context: `in` is one only where the
context says so. -/
def binaryOperator : Parse (Option String) := do
  let ctx ← context
  match ← peek with
  | some (.word "in") => return if ctx.allowIn then some "in" else none
  | some (.word "instanceof") => return some "instanceof"
  | some (.mark m) => return if Token.binaryOperators.contains m then some m else none
  | _ => return none

/-- Where an operand mixes `??` with another logical operator without parentheses, for the operator
that is applied to it. Operands between parentheses are nodes of their own and do not count. -/
def mixesCoalescing (op : String) : Node → Option Nat
  | .binary span (.operator inner) _ _ =>
    if (op == "??" && (inner == "&&" || inner == "||"))
        || ((op == "&&" || op == "||") && inner == "??") then some span.lo
    else none
  | _ => none

/-- `parse_bin_op_recursively`: the operators behind an operand that bind tighter than `least`. -/
def operators (g : Grammar) (left : Node) (least : Nat) : Parse Node := do
  let some op ← binaryOperator | return left
  let some strength := strength? op | return left
  if strength ≤ least then return left
  bump
  if op == "**" then
    match left with
    | .unary _ (.operator _) _ | .unary _ .await _ => refuse (← here) .exponentOfUnary
    | _ => pure ()
  let operand ← g.unary
  let right ← g.operators operand (if op == "**" then strength - 1 else strength)
  if let some lo := mixesCoalescing op left then note lo .mixedCoalescing
  if let some lo := mixesCoalescing op right then note lo .mixedCoalescing
  g.operators (.binary (left.span.join right.span) (.operator op) left right) least

/-- `parse_bin_expr`: operands joined by binary operators. A missing first operand is noted and
stepped over if an operator follows. -/
def operation (g : Grammar) : Parse Node := do
  let first ← tryCatch (Except.ok <$> g.unary) fun d => pure (Except.error d)
  let left ←
    match first with
    | .ok n => pure n
    | .error d =>
      let _ ← need
      if (← binaryOperator).isSome then
        note (← here) .expectedExpression
        pure (Node.leaf (.point d.offset) .invalid)
      else throw d
  if left.isArrow then return left else g.operators left 0

/-- Notes that an operand of `++` or `--` cannot be assigned to, at the start of the operand. -/
def checkUpdated (n : Node) : Parse Unit := do
  if !n.isSimpleTarget (← context).strict then note n.span.lo .invalidTarget

/-- An `await` expression that starts at an offset, from behind its word on; or the name `await`
where nothing it could wait for follows and the code is not asynchronous. -/
def awaitTail (g : Grammar) (lo : Nat) : Parse Node := do
  let span ← spanFrom lo
  if ← isAt "*" then refuse (← here) .awaitStar
  let ctx ← context
  if !ctx.inAsync && ((← isAtAny [")", "]", ","]) || (← atStatementEnd)) then
    if ctx.inModule then note lo .awaitAsName
    return .leaf span (.name "await")
  if ctx.inFunction && !ctx.inAsync then note (← here) .awaitOutsideAsync
  if ctx.inParameters && !ctx.inFunction then note lo .awaitInParameters
  let arg ← g.unary
  return .unary (← spanFrom lo) .await arg

/-- `parse_await_expr`: an `await` expression, or the name `await`. -/
def await (g : Grammar) : Parse Node := do
  let lo ← start
  bump
  awaitTail g lo

/-- A literal that is one token, with the span of that token. -/
def literal (lo : Nat) (leaf : Leaf) : Parse Node := do
  bump
  return .leaf (← spanFrom lo) leaf

/-- `parse_dynamic_import_or_import_meta`: the callee of a dynamic import, or `import.meta`. The
latter makes the text a module. -/
def importExpression : Parse Node := do
  let lo ← start
  bump
  let span ← spanFrom lo
  if ← eat "." then
    modify ({ · with foundModuleItem := true })
    let property ← anyWord
    if property.text == "meta" then return .leaf (← spanFrom lo) .importMeta
    match ImportPhase.ofWord? property.text with
    | some phase => return .leaf (← spanFrom lo) (.importKeyword phase)
    | none => unexpected "meta"
  else if ← isAt "(" then return .leaf span (.importKeyword .evaluation)
  else unexpected "`.` or `(`"

/-- `parse_lhs_expr`: the callee and arguments or member accesses of an expression that can be
assigned to. -/
def leftHandSide (g : Grammar) : Parse Node := do
  let lo ← start
  if ← isAt "super" then return ← g.accesses lo (← literal lo .super) false
  if ← isAt "import" then return ← g.accesses lo (← importExpression) false
  let callee ← g.member true
  if callee.isArrow then return callee
  if ← isAt "(" then
    g.accesses lo callee false
  else return callee

/-- `parse_unary_expr`: an operand with the operators in front of it and behind it. A missing
operand of a word or sign is noted, and reading goes on without it. -/
def unary (g : Grammar) : Parse Node := do
  let lo ← start
  match ← peek with
  | some (.mark "++") | some (.mark "--") =>
    let op ← shown
    bump
    let arg ← g.unary
    checkUpdated arg
    return .unary (.source lo arg.span.hi) (.updateBefore op) arg
  | some (.word "delete") | some (.word "void") | some (.word "typeof") | some (.mark "+")
  | some (.mark "-") | some (.mark "~") | some (.mark "!") =>
    let op ← shown
    bump
    let before ← start
    let arg ← tryCatch g.unary fun d => do
      note d.offset d.fault
      return .leaf (.point (before - 1)) .invalid
    if op == "delete" then
      if arg.isName then noteInModule arg.span.lo .deleteOfName
    return .unary (.source lo arg.span.hi) (.operator op) arg
  | some (.word "await") => await g
  | _ =>
    let arg ← leftHandSide g
    if arg.isArrow then return arg
    if ← lineBreakBefore then return arg
    if ← isAtAny ["++", "--"] then
      checkUpdated arg
      let op ← shown
      bump
      return .unary (← spanFrom arg.span.lo) (.updateAfter op) arg
    else return arg

/-! ## Assignments -/

/-- `parse_cond_expr`: a choice between two expressions, or its test alone. Between `?` and `:` the
word `in` is an operator. -/
def conditional (g : Grammar) : Parse Node := do
  let lo ← start
  let test ← operation g
  if test.isArrow then return test
  if ← eat "?" then
    let yes ← allowingIn g.assignment
    expect ":"
    let no ← g.assignment
    return .conditional (.source lo no.span.hi) test yes no
  else return test

/-- `parse_yield_expr`: a `yield` expression, whose operand may be missing where a statement can end
or where no expression starts. -/
def yield (g : Grammar) : Parse Node := do
  let lo ← start
  bump
  let ctx ← context
  if ctx.inParameters && !ctx.inFunction then refuse (← lastStart) .yieldInParameters
  if ← atStatementEnd then return .leaf (← spanFrom lo) .yieldNothing
  refuseFlaw
  let next ← peek
  if !isText "*" next && !(next.map Token.startsExpression).getD true then
    return .leaf (← spanFrom lo) .yieldNothing
  let delegate ← eat "*"
  let arg ← g.assignment
  return .unary (← spanFrom lo) (.yield delegate) arg

/-- `finish_assignment_expr`: the assignment that an expression is the left side of, if an assigning
operator follows. Behind a plain `=` the left side may be a pattern. -/
def assignmentTail (g : Grammar) (lo : Nat) (left : Node) : Parse Node := do
  match ← peek with
  | some (.mark op) =>
    if !Token.assignOperators.contains op then return left
    let left ←
      if op == "=" then toPattern .target left
      else do
        if !left.isSimpleTarget (← context).strict then note left.span.lo .notAssignable
        pure left
    if !left.isAssignable then refuse left.span.lo .invalidAssignmentTarget
    bump
    let right ← g.assignment
    return .binary (← spanFrom lo) (.assign op) left right
  | _ => return left

/-- `parse_assignment_expr`: an expression without a comma at its top. Where it starts, a name or a
parenthesis may also start an arrow function. -/
def assignment (g : Grammar) : Parse Node := do
  if (← context).inGenerator && (← isAt "yield") then return ← yield g
  let lo ← start
  let arrowStart :=
    match ← need with
    | .word w => if Word.isPlain w || w == "yield" then some lo else none
    | .escapedName _ | .mark "(" => some lo
    | _ => none
  modify ({ · with arrowStart })
  let n ← conditional g
  if n.isArrow then return n
  match n with
  | .conditional .. | .binary _ (.operator _) _ _ | .unary _ (.operator _) _
  | .unary _ (.updateBefore _) _ | .unary _ (.updateAfter _) _ => return n
  | _ => assignmentTail g lo n

/-- `parse_expr`: expressions separated by commas, or one alone. -/
def expression (g : Grammar) : Parse Node := do
  let first ← g.assignment
  if !(← isAt ",") then return first
  let items ← loop [first] fun items => do
    if ← eat "," then
      let item ← g.assignment
      return .again (item :: items)
    else return .done items
  return .group (← spanFrom first.span.lo) .sequence items.reverse

/-! ## Members and calls -/

/-- `parse_expr_or_spread`: an argument, an array element or an expression between parentheses. -/
def spreadOrAssignment (g : Grammar) : Parse Node := do
  let lo ← start
  if ← eat "..." then
    let arg ← allowingIn g.assignment
    return .unary (← spanFrom lo) .spread arg
  else g.assignment

/-- `parse_args`: the arguments of a call, parentheses included; told whether the call is a dynamic
import, behind whose arguments no comma may stand. -/
def arguments (g : Grammar) (isImport : Bool) : Parse (List Node) := do
  let lo ← start
  expect "("
  let args ← loop ([] : List Node) fun args => do
    if (← atEnd) || (← isAt ")") then return .done args
    if !args.isEmpty then
      expect ","
      if ← isAt ")" then
        if isImport then refuse lo .importTrailingComma
        return .done args
    let arg ← allowingIn (spreadOrAssignment g)
    return .again (arg :: args)
  expect ")"
  return args.reverse

/-- `parse_tpl_element`: a stretch of template text; told whether the template has a tag. Only then
may its escapes be wrong. -/
def templateChunk (tagged : Bool) : Parse Node := do
  let lo ← start
  match ← need with
  | .chunk raw flaw =>
    bump
    if let some d := flaw then
      if !tagged then throw d
    return .leaf (← spanFrom lo) (.chunk raw tagged)
  | _ => unexpected "template token"

/-- `parse_tpl` and `parse_tagged_tpl`: a template, which is stretches of text with expressions
between them; told whether it has a tag. -/
def template (g : Grammar) (tagged : Bool) : Parse Node := do
  let lo ← start
  bump
  let first ← templateChunk tagged
  let items ← loop [first] fun items => do
    if ← isAt "`" then return .done items
    expect "$\x7b"
    let value ← allowingIn g.expression
    expect "\x7d"
    let text ← templateChunk tagged
    return .again (text :: value :: items)
  expect "`"
  return .group (← spanFrom lo) .template items.reverse

/-- The access of a property of an expression that starts at `lo`, all of it being read; told
whether it is optional, and whether calls are left out. What `super` and `import` do not allow is
refused here. -/
def access (lo : Nat) (object key : Node) (isOptional noCall : Bool) : Parse Node := do
  if object.isImport then refuse (← here) .misplacedImport
  let span ← spanFrom lo
  if !object.isSuper then
    return .binary span (.member (isOptional || object.isChain) isOptional) object key
  if !(← context).allowSuper then refuse (← here) .superOutside
  if isOptional then refuse (← here) (if noCall then .superCall else .superOutside)
  if key matches .leaf _ (.privateName _) then refuse (← here) .superCall
  return .binary span .superMember object key

/-- `parse_subscripts`: the accesses, calls and templates behind an expression that starts at `lo`;
told whether calls are left out, as they are behind `new`. -/
def accesses (g : Grammar) (lo : Nat) (object : Node) (noCall : Bool) : Parse Node := do
  let isOptional ← both (isAt "?") (isAhead ".")
  if isOptional then
    bump
    -- In front of a bracket or parenthesis the point of `?.` goes with it.
    let next ← peekAhead
    if isText "[" next || isText "(" next then bump
  let keyStart ← start
  if ← eat "[" then
    let key ← allowingIn g.expression
    expect "]"
    let key := Node.unary (← spanFrom keyStart) .computed key
    return ← g.accesses lo (← access lo object key isOptional noCall) noCall
  if (isOptional || !noCall) && (← isAt "(") then
    let args ← arguments g object.isImport
    if isOptional && (object.isSuper || object.isImport) then refuse (← here) .optionalSuperOrImport
    let form := if isOptional || object.isChain then CallForm.chain isOptional else .call
    return ← g.accesses lo (.call (← spanFrom lo) form object args) noCall
  if ← eat "." then
    let key ← if ← isAt "#" then privateName else Label.node <$> anyWord
    return ← g.accesses lo (← access lo object key isOptional noCall) noCall
  if object.isSuper then refuse (← here) (if noCall then .superCall else .superOutside)
  if object.isImport then refuse (← here) .misplacedImport
  if ← isAt "`" then
    let text ← template g true
    if object.isChain then note object.span.lo .chainInTag
    return ← g.accesses lo (.binary (← spanFrom lo) .tagged object text) noCall
  return object

/-- `parse_member_expr_or_new_expr` from the word `new` on: a `new` expression or `new.target`; told
whether `new` may lack its arguments. -/
def newExpression (g : Grammar) (mayLackArguments : Bool) : Parse Node := do
  let lo ← start
  bump
  if ← eat "." then
    if !(← eat "target") then unexpected "target"
    let ctx ← context
    if !ctx.inOwnScope && !ctx.inParameters && !ctx.inClass then note lo .newTargetOutside
    return ← g.accesses lo (.leaf (← spanFrom lo) .newTarget) true
  let callee ← g.member mayLackArguments
  if callee.isArrow then return callee
  if mayLackArguments then
    match callee with
    | .binary _ (.member false _) object _ =>
      if object.isChain then refuse object.span.lo .chainInConstructor
    | _ => if callee.isChain then refuse callee.span.lo .chainInConstructor
  if !mayLackArguments || (← isAt "(") then
    let args ← arguments g false
    g.accesses lo (.call (← spanFrom lo) .new callee args) true
  else return .call (← spanFrom lo) .newBare callee []

/-! ## Primary expressions -/

/-- `parse_array_lit`: an array literal. A comma at its end is remembered, for the case that the
literal turns out to be a pattern. -/
def array (g : Grammar) : Parse Node := do
  let lo ← start
  bump
  let items ← loop ([] : List Node) fun items => do
    if (← atEnd) || (← isAt "]") then return .done items
    if ← eat "," then return .again (.leaf .synthetic .hole :: items)
    let item ← allowingIn (spreadOrAssignment g)
    if !(← isAt "]") then
      expect ","
      if ← isAt "]" then
        let comma ← lastStart
        modify fun r => { r with trailingCommas := (lo, comma) :: r.trailingCommas }
    return .again (item :: items)
  expect "]"
  return .group (← spanFrom lo) .array items.reverse

/-- Flags of a regular expression that may be used. -/
def regexFlags : List Char := ['d', 'g', 'i', 'm', 's', 'u', 'v', 'y']

/-- A regular expression whose opening slash is the current token. The lexer is asked to read on
from there as one. -/
def regex : Parse Node := do
  let lo ← start
  bump
  modify fun r => { r with lexer := { r.lexer with regexAt := some lo } }
  match ← need with
  | .regex body flags =>
    bump
    let cs := flags.toList
    if !cs.all regexFlags.contains then note lo .unknownRegexFlags
    if let some c := cs.find? fun c => regexFlags.contains c && cs.count c > 1 then
      note lo (.duplicatedRegexFlag c)
    return .leaf (← spanFrom lo) (.regex ("/" ++ body ++ "/" ++ flags))
  | _ => refuse lo .expectedExpression

/-- Whether the node is a name, or spreads one out. -/
def isNameOrSpread : Node → Bool
  | .unary _ .spread arg => arg.isName
  | n => n.isName

/-- The arrow function whose arrow stands behind items between parentheses, which are given last
first and are its parameters; `lo` is the start of the last one. Behind other items than a name the
arrow is taken and goes for nothing. -/
def itemsArrow (g : Grammar) (lo : Nat) (items : List Node) : Parse (List Node) := do
  if ← both (eat "=>") (return items.getLast?.any isNameOrSpread) then
    let params ← toParameters none items.reverse
    let arrow ← arrowTail g lo false params
    return arrow :: items
  else return items

/-- `parse_args_or_pats`: what stands between parentheses, and the offset of a comma behind it. -/
def parenItems (g : Grammar) : Parse (List Node × Option Nat) := do
  expect "("
  let (items, comma) ← loop (([], none) : List Node × Option Nat) fun (items, comma) => do
    if (← atEnd) || (← isAt ")") then return .done (items, comma)
    let lo ← start
    modify ({ · with arrowStart := some lo })
    let item ← allowingIn (spreadOrAssignment g)
    let items ← itemsArrow g lo (item :: items)
    if !(← isAt ")") then
      expect ","
      let comma ← if ← isAt ")" then some <$> lastStart else pure none
      return .again (items, comma)
    return .again (items, comma)
  expect ")"
  return (items.reverse, comma)

/-- Notes default values in object literals that have not become patterns. -/
def checkCoverDefaults : List Node → Parse Unit
  | [] => pure ()
  | .group _ .object items :: rest => do
    for item in items do
      if let .binary span .coverDefault _ _ := item then note span.lo .coverDefault
    checkCoverDefaults rest
  | _ :: rest => checkCoverDefaults rest

/-- The node that parenthesized items form when no arrow follows: several are a sequence, none and
spread ones are refused. -/
def parenthesized (lo : Nat) (items : List Node) : Parse Node := do
  for item in items do
    if let .unary _ .spread arg := item then refuse arg.span.lo .spreadInParens
  match items with
  | [] => refuse lo .emptyParens
  | [item] => return .unary (← spanFrom lo) .paren item
  | first :: rest =>
    let inside := Node.group (first.span.join (rest.getLast?.getD first).span) .sequence items
    return .unary (← spanFrom lo) .paren inside

/-- `parse_paren_expr_or_arrow_fn`: a parenthesized expression, an arrow function, or behind the
name `async` at `asyncAt` a call. -/
def parens (g : Grammar) (mayBeArrow : Bool) (asyncAt : Option Span) : Parse Node := do
  let parenStart ← start
  let lo := (asyncAt.map Span.lo).getD parenStart
  let (items, comma) ← allowingIn (parenItems g)
  if ← isAt "=>" then
    if ← lineBreakBefore then refuse lo .lineBreakBeforeArrow
    if !mayBeArrow then refuse lo .misplacedArrow
    expect "=>"
    let params ← toParameters comma items
    let arrow ← arrowTail g lo asyncAt.isSome params
    if let .function .. := arrow then
      if ((← peek).map Token.isBinaryOperator).getD false then
        note (← here) .expectedSemicolon
        let n ← g.operators arrow 0
        if !(← atStatementEnd) then note (← here) .expectedSemicolon
        return n
    return arrow
  checkCoverDefaults items
  match asyncAt with
  | some span => return .call (← spanFrom lo) .call (.leaf span (.name "async")) items
  | none => parenthesized lo items

/-- A name, or an arrow function whose only parameter it is. Behind the name `async` another name
may be the parameter. -/
def nameOrArrow (g : Grammar) (lo : Nat) (mayBeArrow : Bool) : Parse Node := do
  let label ← reference
  if mayBeArrow && label.text == "async" && !(← lineBreakBefore) && (← isName (← peek)) then
    let ctx ← context
    let isHeadOf ← both (return ctx.loopHead) (both (isAt "of") (return !(← isAhead "=>")))
    if isHeadOf then
      if !ctx.awaitLoopHead then note (← lastStart) .asyncBeforeOf
      return label.node
    let param ← declaredName false
    expect "=>"
    arrowTail g lo true [param.node]
  else if ← both (return mayBeArrow && !(← lineBreakBefore)) (eat "=>") then
    if Node.isProtectedName label.text then
      if (← context).strict then noteInModule label.span.lo .evalOrArgumentsBinding
    arrowTail g lo false [label.node]
  else return label.node

/-- `parse_primary_expr`: a literal, a name, or what its first token opens: a function, a class, an
array, an object, a template or parentheses. -/
def primary (g : Grammar) : Parse Node := do
  let lo ← start
  let mayBeArrow := (← get).arrowStart == some lo
  match ← peek with
  | some (.word "this") => literal lo .this
  | some (.word "null") => literal lo .null
  | some (.word "true") => literal lo (.boolean true)
  | some (.word "false") => literal lo (.boolean false)
  | some (.number raw) => literal lo (.number raw)
  | some (.bigint raw) => literal lo (.bigint raw)
  | some (.string value raw) => literal lo (.string value raw)
  | some (.word "function") => function g lo false false true
  | some (.word "class") => «class» g lo false
  | some (.mark "[") => array g
  | some (.mark "\x7b") => object g
  | some (.mark "/") | some (.mark "/=") => regex
  | some (.mark "`") => template g false
  | some (.mark "(") => parens g mayBeArrow none
  | some (.mark "#") =>
    bump
    let label ← anyWord
    return .leaf (← spanFrom lo) (.privateName label.text)
  | some (.escapedName _) => nameOrArrow g lo mayBeArrow
  | some (.word w) =>
    if ← both (return w == "async") (return !(← lineBreakAhead)) then
      if ← isAhead "function" then
        bump
        return ← function g lo true false true
      if mayBeArrow && (← isAhead "(") then
        bump
        let span ← lastSpan
        return ← parens g mayBeArrow (some span)
    if w == "let" || !(← context).isReserved w then nameOrArrow g lo mayBeArrow
    else refuse (← here) .expectedExpression
  | _ => refuse (← here) .expectedExpression

/-- `parse_member_expr_or_new_expr`: a primary expression with its member accesses, or a `new`
expression; told whether `new` may lack its arguments. -/
def member (g : Grammar) (mayLackArguments : Bool) : Parse Node := do
  let lo ← start
  if ← isAt "new" then return ← newExpression g mayLackArguments
  let object ←
    match ← peek with
    | some (.word "super") => literal lo .super
    | some (.word "import") => importExpression
    | _ => primary g
  if object.isArrow then return object
  g.accesses lo object true

end Parse

end LoopGuard
