import LoopGuard.Syntax.Parser.Function

/-!
# Object literals and classes

The members of objects and classes: properties, methods, accessors, fields and static blocks.
Decorators, index signatures and the modifiers of types are left out.
-/

namespace LoopGuard

namespace Parse

/-! ## Accessors -/

/-- Notes that a getter has parameters. -/
def checkGetter (keyStart : Nat) (params : List Node) : Parse Unit := do
  if !params.isEmpty then note keyStart .getterParameters

/-- Notes that a setter does not have exactly one plain parameter. -/
def checkSetter (keyStart : Nat) (params : List Node) : Parse Unit := do
  if params.length != 1 then note keyStart .setterParameters
  if let .unary span (.rest _) _ :: _ := params then note span.lo .restInSetter

/-! ## Object literals -/

/-- A method of an object literal, from its parameters on. -/
def objectMethod (g : Grammar) (lo : Nat) (form : FunctionForm) (key : Node)
    (isAsync isGenerator : Bool) (check : List Node → Parse Unit) : Parse Node := do
  let (params, body) ← methodTail g true isAsync isGenerator check
  return .function (← spanFrom lo) form (some key) params body

/-- `parse_object_prop`: a property, method or accessor of an object literal. A default value is
read too, since the literal may turn out to be a pattern. -/
def objectProperty (g : Grammar) : Parse Node := do
  let lo ← start
  if ← eat "..." then
    let arg ← allowingIn g.assignment
    return .unary (← spanFrom lo) .spreadProperty arg
  if ← eat "*" then
    let key ← propertyKey g
    return ← objectMethod g lo (.method false true) key false true fun _ => pure ()
  let key ← propertyKey g
  if ← eat ":" then
    let value ← allowingIn g.assignment
    return .binary (← spanFrom lo) .keyValue key value
  if ← isAt "(" then
    return ← objectMethod g lo (.method false false) key false false fun _ => pure ()
  match key with
  | .leaf _ (.name w) =>
    if ← eat "?" then note (← lastStart) .optionalMember
    if ← isAtAny ["=", ",", "\x7d"] then
      if ← eat "=" then
        let value ← allowingIn g.assignment
        return .binary (← spanFrom lo) .coverDefault key value
      return key
    match w with
    | "get" =>
      let key ← propertyKey g
      objectMethod g lo .getter key false false (checkGetter key.span.lo)
    | "set" =>
      let key ← propertyKey g
      objectMethod g lo .setter key false false (checkSetter key.span.lo)
    | "async" =>
      let isGenerator ← eat "*"
      let key ← propertyKey g
      objectMethod g lo (.method true isGenerator) key true isGenerator fun _ => pure ()
    | _ => unexpected "... , *,  (, [, :, , ?, = or an identifier"
  | _ => unexpected "identifier"

/-- `parse_object`: an object literal. A comma at its end is remembered, for the case that the
literal turns out to be a pattern. -/
def object (g : Grammar) : Parse Node := do
  let lo ← start
  let (items, comma) ← braced (objectProperty g)
  if let some at_ := comma then
    modify fun r => { r with trailingCommas := (lo, at_) :: r.trailingCommas }
  return .group (← spanFrom lo) .object items

/-! ## Classes -/

/-- `parse_private_name`: a private name, whose mark and word stand together. -/
def privateName : Parse Node := do
  let lo ← start
  expect "#"
  if (← start) != (← lastEnd) then refuse lo .spaceAfterNumberSign
  let label ← anyWord
  return .leaf (← spanFrom lo) (.privateName label.text)

/-- `parse_class_prop_name`: the name of a class member, which may be private. -/
def memberKey (g : Grammar) : Parse Node := do
  if ← isAt "#" then
    let key ← privateName
    if let .leaf span (.privateName "constructor") := key then note span.lo .privateConstructor
    return key
  else propertyKey g

/-- Whether a member's name makes it the constructor. -/
def isConstructorKey : Node → Bool
  | .leaf _ (.name w) => w == "constructor"
  | .leaf _ (.string value _) => value == "constructor"
  | _ => false

/-- Whether what stands behind a member's name makes the member a field; told whether a new line
does. -/
def atFieldEnd (newLineEnds : Bool) : Parse Bool := do
  if ← isAtAny ["=", "\x7d", ";"] then return true
  if newLineEnds then atStatementEnd else return false

/-- `make_property`: a field of a class, from behind its name on. -/
def classField (g : Grammar) (lo : Nat) (isStatic : Bool) (key : Node) : Parse Node := do
  if isConstructorKey key then refuse key.span.lo .fieldNamedConstructor
  within ({ · with allowIn := true, inField := true }) do
    let value ← if ← eat "=" then some <$> g.assignment else pure none
    if !(← eatStatementEnd) then note (← here) .expectedSemicolon
    match value with
    | some v => return .binary (← spanFrom lo) (.field isStatic) key v
    | none => return .unary (← spanFrom lo) (.field isStatic) key

/-- `make_method`: a method of a class, from its parameters on. -/
def classMethod (g : Grammar) (lo : Nat) (isStatic : Bool) (kind : MethodKind) (key : Node)
    (isAsync isGenerator : Bool) (check : List Node → Parse Unit) : Parse Node := do
  let (params, body) ← methodTail g true isAsync isGenerator check
  return .function (← spanFrom lo) (.member isStatic kind isAsync isGenerator) (some key) params
    body

/-- The constructor of a class, from its parameters on. -/
def classConstructor (g : Grammar) (lo : Nat) (key : Node) : Parse Node := do
  expect "("
  let params ← parameters g false
  expect ")"
  let body ← inBody false false false do
    let body ← allowingIn (g.block true)
    checkUseStrict params body
    return body
  return .function (← spanFrom lo) .constructor (some key) params body

/-- `parse_class_member_with_is_static`: a member of a class, from behind the optional word `static`
on. -/
def classMemberTail (g : Grammar) (lo : Nat) (isStatic : Bool) : Parse Node := do
  if isStatic && (← isAt "\x7b") then
    let body ← within ({ · with inStaticBlock := true, inField := true }) (g.block false)
    return .function (← spanFrom lo) .staticBlock none [] body
  if ← eat "*" then
    let key ← memberKey g
    if isConstructorKey key then note lo .generatorConstructor
    return ← classMethod g lo isStatic .method key false true fun _ => pure ()
  let key ← memberKey g
  if ← isAt "(" then
    if isConstructorKey key then
      let read ← classConstructor g lo key
      if isStatic then note lo .staticConstructor
      return read
    return ← classMethod g lo isStatic .method key false false fun _ => pure ()
  let startsGenerator := (← lineBreakBefore) && (← isAt "*")
  let modifier : Option String := match key with
    | .leaf _ (.name w) => if w == "get" || w == "set" || w == "async" then some w else none
    | _ => none
  let isAccessor := (modifier == some "get" || modifier == some "set") && !(← atFieldEnd false)
    && !startsGenerator
  if !isAccessor && (← atFieldEnd true) then return ← classField g lo isStatic key
  if modifier == some "async" && !(← lineBreakBefore) then
    let isGenerator ← eat "*"
    let key ← memberKey g
    if isConstructorKey key then refuse key.span.lo .asyncConstructor
    return ← classMethod g lo isStatic .method key true isGenerator fun _ => pure ()
  if isAccessor then
    let wordStart := key.span.lo
    let key ← memberKey g
    if isConstructorKey key then note wordStart .accessorConstructor
    if modifier == some "get" then
      return ← classMethod g lo isStatic .getter key false false (checkGetter wordStart)
    else
      return ← classMethod g lo isStatic .setter key false false (checkSetter wordStart)
  unexpected "* for generator, private key, identifier or async"

/-- `parse_class_member`: a member of a class, or a static block. -/
def classMember (g : Grammar) : Parse Node := do
  let lo ← start
  if ← eat "static" then
    let key := Node.leaf (← lastSpan) (.name "static")
    if ← isAt "(" then return ← classMethod g lo false .method key false false fun _ => pure ()
    if ← atFieldEnd false then return ← classField g lo false key
    classMemberTail g lo true
  else classMemberTail g lo false

/-- `parse_class_body`: the members of a class, up to the closing brace. Semicolons between them are
empty members; a second constructor is noted. -/
def classBody (g : Grammar) : Parse (List Node) := do
  let (members, _) ← loop (([], false) : List Node × Bool) fun (members, hasConstructor) => do
    if (← atEnd) || (← isAt "\x7d") then return .done (members, hasConstructor)
    if ← eat ";" then return .again (.leaf (← lastSpan) .emptyMember :: members, hasConstructor)
    let m ← within ({ · with allowSuper := true }) (classMember g)
    match m with
    | .function span .constructor _ _ _ =>
      if hasConstructor then note span.lo .duplicateConstructor
      return .again (m :: members, true)
    | _ => return .again (m :: members, hasConstructor)
  return members.reverse

/-- A class; told whether it needs a name. -/
def «class» (g : Grammar) (lo : Nat) (needsName : Bool) : Parse Node :=
  within ({ · with strict := true, inClass := true }) do
    expect "class"
    let className ←
      if needsName || (← isName (← peek)) then some <$> declaredName true else pure none
    let heritage ← if ← eat "extends" then some <$> g.leftHandSide else pure none
    if ← eat "extends" then
      note (← lastStart) .duplicateExtends
      let _ ← g.leftHandSide
    expect "\x7b"
    let members ← classBody g
    if ← atEnd then note (← here) (.expected "\x7d" "<eof>") else expect "\x7d"
    return .class (← spanFrom lo) (className.map Label.node) members heritage

end Parse

end LoopGuard
