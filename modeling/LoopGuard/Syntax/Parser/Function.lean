import LoopGuard.Syntax.Parser.Pattern

/-!
# Functions

Parameter lists and bodies (`parse_formal_params`, `parse_fn_body`), shared by functions, methods
and arrow functions, and the patterns that declare names (`parse_binding_pat_or_ident`).
-/

namespace LoopGuard

namespace Parse

/-! ## Declaring patterns -/

/-- `parse_prop_name`: a key of a property, which is a word, a literal or an expression in
brackets. -/
def propertyKey (g : Grammar) : Parse Node := do
  let lo ← start
  match ← need with
  | .word w | .escapedName w =>
    bump
    return .leaf (← spanFrom lo) (.name w)
  | .string value raw =>
    bump
    return .leaf (← spanFrom lo) (.string value raw)
  | .number raw =>
    bump
    return .leaf (← spanFrom lo) (.number raw)
  | .bigint raw =>
    bump
    return .leaf (← spanFrom lo) (.bigint raw)
  | .mark "[" =>
    bump
    let key ← allowingIn g.assignment
    expect "]"
    return .unary (← spanFrom lo) .computed key
  | _ => unexpected "identifier, string literal, numeric literal or [ for the computed key"

/-- `parse_binding_element`: a pattern with the default value that may follow it. -/
def bindingElement (g : Grammar) : Parse Node := do
  let lo ← start
  let left ← g.binding false
  if ← eat "=" then
    let right ← allowingIn g.assignment
    return .binary (← spanFrom lo) .default left right
  else return left

/-- An array pattern on the way: its elements, last first, the elements left out behind these, and
where there is a rest element. -/
structure ArrayBinding where
  items : List Node := []
  holes : Nat := 0
  restAt : Option Nat := none

/-- The array pattern with one more element, which starts at an offset. -/
def ArrayBinding.push (a : ArrayBinding) (item : Node) (isRest : Bool) (lo : Nat) :
    ArrayBinding where
  items := item :: (List.replicate a.holes (.leaf .synthetic .hole) ++ a.items)
  restAt := if isRest then some lo else a.restAt

/-- A rest element that declares names and starts at an offset, behind its dots. -/
def restBinding (g : Grammar) (lo : Nat) : Parse Node := do
  let dots ← lastSpan
  let arg ← g.binding false
  return .unary (← spanFrom lo) (.rest dots) arg

/-- `parse_array_binding_pat`: an array pattern that declares names. Elements left out at its end
count for nothing. -/
def arrayBinding (g : Grammar) : Parse Node := do
  let lo ← start
  bump
  let a ← loop ({} : ArrayBinding) fun a => do
    if (← atEnd) || (← isAt "]") then return .done a
    let itemStart ← start
    if ← eat "," then return .again { a with holes := a.holes + 1 }
    if let some at_ := a.restAt then note at_ .restNotLast
    let isRest ← eat "..."
    let item ← if isRest then restBinding g itemStart else bindingElement g
    if !(← isAt "]") then
      expect ","
      if isRest && (← isAt "]") then note (← lastStart) .commaAfterRest
    return .again (a.push item isRest itemStart)
  expect "]"
  return .group (← spanFrom lo) .arrayPattern a.items.reverse

/-- `parse_binding_object_prop`: a property of an object pattern that declares names. -/
def bindingProperty (g : Grammar) : Parse Node := do
  let lo ← start
  if ← eat "..." then return ← restBinding g lo
  let key ← propertyKey g
  if ← eat ":" then
    let value ← bindingElement g
    return .binary (← spanFrom lo) .keyValue key value
  if !key.isName then unexpected "an identifier"
  if ← eat "=" then
    let value ← allowingIn g.assignment
    return .binary (← spanFrom lo) .shorthandDefault key value
  else return key

/-- Notes where rest properties of an object pattern stand wrongly. -/
def checkRestProperties (trailingComma : Option Nat) : List Node → Parse Unit
  | [] => pure ()
  | [.unary span (.rest _) arg] =>
    if arg.isName then
      match trailingComma with
      | some comma => note comma .commaAfterRest
      | none => pure ()
    else refuse span.lo .restWithoutName
  | n :: rest => do
    if let .unary span (.rest _) _ := n then
      if !rest.isEmpty then note span.lo .restNotLast
    checkRestProperties trailingComma rest

/-- The properties between the braces of an object, each read by `property`, with the offset of a
comma behind the last one. -/
def braced (property : Parse Node) : Parse (List Node × Option Nat) := do
  bump
  let (items, comma) ← loop (([], none) : List Node × Option Nat) fun (items, comma) => do
    if ← eat "\x7d" then return .done (items, comma)
    let item ← property
    if !(← isAt "\x7d") then
      expect ","
      let comma ← if ← isAt "\x7d" then some <$> lastStart else pure none
      return .again (item :: items, comma)
    return .again (item :: items, comma)
  return (items.reverse, comma)

/-- An object pattern that declares names. -/
def objectBinding (g : Grammar) : Parse Node := do
  let lo ← start
  let (items, comma) ← braced (bindingProperty g)
  checkRestProperties comma items
  return .group (← spanFrom lo) .objectPattern items

/-- `parse_binding_pat_or_ident`: a pattern that declares names; told whether `let` is no name. -/
def binding (g : Grammar) (letIsReserved : Bool) : Parse Node := do
  match ← need with
  | .word _ | .escapedName _ => return (← declaredName letIsReserved).node
  | .mark "[" => arrayBinding g
  | .mark "\x7b" => objectBinding g
  | _ => unexpected "yield, an identifier, [ or \x7b"

/-! ## Parameters and bodies -/

/-- `parse_formal_param_pat`: a parameter that starts at an offset. A default value may itself be
followed by another one. -/
def plainParameter (g : Grammar) (lo : Nat) : Parse Node := do
  let pattern ← bindingElement g
  if ← eat "=" then
    let right ← g.assignment
    return .binary (← spanFrom lo) .default pattern right
  else return pattern

/-- A rest parameter that starts at an offset, behind its dots; told whether a default value is
read, and refused, or not looked for. -/
def restParameter (g : Grammar) (lo : Nat) (readsDefault : Bool) : Parse Node := do
  let dots ← lastSpan
  let pattern ← g.binding false
  if ← both (return readsDefault) (eat "=") then
    let right ← g.assignment
    note pattern.span.lo .restWithDefault
    let arg := Node.binary (← spanFrom lo) .default pattern right
    return .unary (← spanFrom lo) (.rest dots) arg
  else return .unary (← spanFrom lo) (.rest dots) pattern

/-- `parse_formal_params`: the parameters up to the closing parenthesis; told whether a default
value of a rest parameter is read. -/
def parameters (g : Grammar) (readsRestDefault : Bool) : Parse (List Node) := do
  let (params, _) ← loop (([], none) : List Node × Option Nat) fun (params, restAt) => do
    if (← atEnd) || (← isAt ")") then return .done (params, restAt)
    if let some lo := restAt then note lo .restParameterNotLast
    let lo ← start
    let isRest ← eat "..."
    let param ← if isRest then restParameter g lo readsRestDefault else plainParameter g lo
    if !(← isAt ")") then
      expect ","
      if isRest && (← isAt ")") then note (← lastStart) .commaAfterRest
    return .again (param :: params, if isRest then some lo else restAt)
  return params.reverse

/-- Whether a statement is the directive that asks for strict rules: its text counts, so one with
escapes is none. -/
def isUseStrict : Stmt → Bool
  | .expression _ (.leaf _ (.string _ raw)) => raw == "'use strict'" || raw == "\"use strict\""
  | _ => false

/-- Where a body asks for strict rules, if one of its directives does. -/
def useStrictAt (body : Block) : Option Nat :=
  let isDirective : Stmt → Bool
    | .expression _ (.leaf _ (.string _ _)) => true
    | _ => false
  ((body.stmts.takeWhile isDirective).find? isUseStrict).map (·.span.lo)

/-- Notes that a body asks for strict rules although a parameter is not a plain name. -/
def checkUseStrict (params : List Node) (body : Block) : Parse Unit := do
  if !params.all Node.isName then
    if let some lo := useStrictAt body then note lo .useStrictWithPatterns

/-- Reads the inside of a function: its labels are its own, and a static block around it is left. -/
def inBody (isAsync isGenerator isArrow : Bool) (p : Parse α) : Parse α := do
  let outer ← get
  modify ({ · with labels := [], trailingCommas := [], arrowStart := none })
  let result ← tryCatch (Except.ok <$> within (fun c => { c with
      inAsync := isAsync
      inGenerator := isGenerator
      inOwnScope := c.inOwnScope || !isArrow
      inFunction := true
      inStaticBlock := false
      allowBreak := false
      allowContinue := false }) p) fun d => pure (Except.error d)
  modify ({ · with
    labels := outer.labels
    trailingCommas := outer.trailingCommas
    arrowStart := outer.arrowStart
    foundModuleItem := outer.foundModuleItem })
  match result with
  | .ok a => return a
  | .error d => throw d

/-- `parse_fn_args_body`: parameters and body of a function that is not an arrow function; the
parameters are looked at by `check` before the body is read. -/
def functionTail (g : Grammar) (isAsync isGenerator : Bool) (check : List Node → Parse Unit) :
    Parse (List Node × Block) :=
  within ({ · with inParameters := true, inFunction := false, inAsync := isAsync,
                   inGenerator := isGenerator }) do
    expect "("
    let params ← parameters g true
    check params
    expect ")"
    let body ← inBody isAsync isGenerator false do
      let body ← allowingIn (g.block true)
      checkUseStrict params body
      return body
    return (params, body)

/-- A method-like member of an object or class, from its parameters on. -/
def methodTail (g : Grammar) (allowSuper isAsync isGenerator : Bool)
    (check : List Node → Parse Unit) : Parse (List Node × Block) :=
  within ({ · with allowSuper, inField := false }) (functionTail g isAsync isGenerator check)

/-- `parse_fn`: a function behind the optional word `async` that starts at `lo`; told whether it
needs a name and whether it is an expression. -/
def function (g : Grammar) (lo : Nat) (isAsync needsName isExpression : Bool) : Parse Node := do
  expect "function"
  let isGenerator ← eat "*"
  let named : Parse (Option Node) := do
    if needsName || (← isName (← peek)) then return some (← declaredName false).node
    else return none
  let (functionName, params, body) ← within ({ · with allowSuper := false, inField := false }) do
    let functionName ←
      if isExpression then within ({ · with inAsync := isAsync, inGenerator := isGenerator }) named
      else named
    let (params, body) ← functionTail g isAsync isGenerator fun _ => pure ()
    return (functionName, params, body)
  return .function (← spanFrom lo) (.function isAsync isGenerator) functionName params body

/-- The body of an arrow function whose arrow has been taken: an expression, or a block of its
own. -/
def arrowTail (g : Grammar) (lo : Nat) (isAsync : Bool) (params : List Node) : Parse Node := do
  let isBlock ← isAt "\x7b"
  if isBlock then
    let body ← inBody isAsync false true do
      let body ← g.block false
      checkUseStrict params body
      return body
    return .function (← spanFrom lo) (.arrow isAsync) none params body
  else
    let body ← inBody isAsync false true g.assignment
    return .arrow (← spanFrom lo) isAsync params body

end Parse

end LoopGuard
