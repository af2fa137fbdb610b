import LoopGuard.Syntax.Parser.Grammar

/-!
# Patterns

Patterns are read in two ways: where names are declared, from their tokens; where an assignment or
an arrow function turns out to follow, from the expression that was read (`reparse_expr_as_pat`).
-/

namespace LoopGuard

/-- What a pattern is for: declaring names, or assigning; at the top of the pattern or inside it. -/
inductive PatternRole where
  | binding
  | bindingElement
  | target
  | targetElement
  deriving Repr, DecidableEq, Inhabited

namespace PatternRole

/-- The role of a pattern inside one of this role. -/
def element : PatternRole → PatternRole
  | binding | bindingElement => bindingElement
  | target | targetElement => targetElement

end PatternRole

namespace Node

/-- Whether the node is a plain name. -/
def isName : Node → Bool
  | leaf _ (.name _) => true
  | _ => false

/-- Whether the node is a pattern with a default value. -/
def isDefault : Node → Bool
  | binary _ .default _ _ => true
  | _ => false

/-- Whether the node is a link of an optional chain. -/
def isChain : Node → Bool
  | binary _ (.member true _) _ _ | call _ (.chain _) _ _ => true
  | _ => false

/-- Whether a name is one that strict rules protect from being bound or assigned to. -/
def isProtectedName (w : String) : Bool := w == "eval" || w == "arguments"

/-- Whether the node can be assigned to as it stands: a name, or a property access outside optional
chains, with or without parentheses; told whether strict rules apply. -/
def isSimpleTarget (strict : Bool) : Node → Bool
  | leaf _ (.name w) => !(strict && isProtectedName w)
  | unary _ .paren arg => arg.isSimpleTarget strict
  | binary _ (.member false _) object _ =>
    match object with
    | binary _ (.member false _) _ _ => object.isSimpleTarget strict
    | _ => !object.isChain
  | binary _ .superMember _ _ => true
  | _ => false

/-- Whether an assignment can have the node, read as a pattern, on its left. -/
def isAssignable : Node → Bool
  | leaf _ (.name _) | leaf _ .invalid => true
  | group _ .arrayPattern _ | group _ .objectPattern _ => true
  | unary _ .paren _ => true
  | binary _ (.member _ _) _ _ | binary _ .superMember _ _ => true
  | call _ (.chain _) _ _ => true
  | _ => false

/-- Whether the node assigns a value. -/
def isAssignment : Node → Bool
  | binary _ (.assign _) _ _ => true
  | _ => false

/-- Whether the node is an element that is left out. -/
def isHole : Node → Bool
  | leaf _ .hole => true
  | _ => false

/-- Whether the node is one of the simple operands, which a message blames for not being assignable
where it calls any other node no pattern. -/
def isSimpleOperand : Node → Bool
  | leaf _ l =>
    match l with
    | .name _ | .null | .boolean _ | .number _ | .bigint _ | .string _ _ | .regex _ => true
    | _ => false
  | binary _ (.member false _) _ _ | binary _ .superMember _ _ => true
  | call _ (.chain _) _ _ => false
  | call .. | «class» .. => true
  | function _ (.function _ _) _ _ _ => true
  | unary _ .paren _ | group _ .template _ => true
  | _ => false

/-- The names of a pattern that are bound without a default value of their own being looked into. -/
def boundNames : Node → List Label
  | leaf span (.name w) => [⟨span, w⟩]
  | unary _ (.rest _) arg => arg.boundNames
  | binary _ .default left _ => left.boundNames
  | binary _ .keyValue _ value => value.boundNames
  | binary _ .shorthandDefault key _ => key.boundNames
  | group _ .arrayPattern items | group _ .objectPattern items => namesOf items
  | _ => []
where
  /-- The names of several patterns. -/
  namesOf : List Node → List Label
    | [] => []
    | n :: rest => n.boundNames ++ namesOf rest

end Node

namespace Parse

/-! ## Expressions as patterns -/

/-- Notes that a node is no pattern, and goes on with a node in its place. -/
def rejectPattern (n : Node) : Parse Node := do
  note n.span.lo .notAPattern
  return .leaf n.span .invalid

/-- A node that is no nested pattern, as an element of a destructured target. -/
def toTargetElement (n : Node) : Parse Node := do
  if n.isSimpleOperand then
    if !n.isSimpleTarget (← context).strict then note n.span.lo .notAssignable
    return n
  else if n matches .leaf _ .invalid then return n
  else rejectPattern n

/-- A node that is no nested pattern, in a role. -/
def toSimplePattern (role : PatternRole) (n : Node) : Parse Node := do
  match role with
  | .target =>
    if !n.isSimpleTarget (← context).strict then note n.span.lo .invalidTarget
    return n
  | .targetElement => toTargetElement n
  | .binding | .bindingElement => if n.isName then return n else rejectPattern n

/-- The dots at the start of a span. -/
def dotsOf (s : Span) : Span := .source s.lo (s.lo + 3)

/-- Whether the last element of an array is left out. -/
def endsInHole (items : List Node) : Bool := items.getLast?.any Node.isHole

/-- Notes a comma behind the last element of the array or object that starts at an offset. -/
def checkTrailingComma (groupStart : Nat) : Parse Unit := do
  if let some comma := (← get).trailingCommas.lookup groupStart then note comma .commaAfterRest

mutual

/-- `reparse_expr_as_pat`: reads an expression again as a pattern in a role. What cannot be one is
noted, and reading goes on. -/
def toPattern (role : PatternRole) : Node → Parse Node
  | .group span .object items => do
    return .group span .objectPattern (← toProperties role span.lo items)
  | .group span .array items => do
    return .group span .arrayPattern (← toElements role span.lo (endsInHole items) items)
  | .binary span (.assign op) left right => do
    if op == "=" && role != .target then
      return .binary span .default (← toDefaulted role left) right
    else toSimplePattern role (.binary span (.assign op) left right)
  | n => toSimplePattern role n

/-- Reads the left side of an assignment again as a pattern, unless it has been read as one. -/
def toDefaulted (role : PatternRole) : Node → Parse Node
  | .group span .object items => do
    return .group span .objectPattern (← toProperties role span.lo items)
  | .group span .array items => do
    return .group span .arrayPattern (← toElements role span.lo (endsInHole items) items)
  | .group span .objectPattern items => return .group span .objectPattern items
  | .group span .arrayPattern items => return .group span .arrayPattern items
  | .leaf span .invalid => return .leaf span .invalid
  | n => toSimplePattern role n

/-- Reads the properties of an object literal as those of a pattern: a rest property comes last, and
methods are none. -/
def toProperties (role : PatternRole) (objectStart : Nat) : List Node → Parse (List Node)
  | [] => return []
  | .leaf span leaf :: rest => do
    let rest ← toProperties role objectStart rest
    return .leaf span leaf :: rest
  | .binary span form key value :: rest => do
    let value ← if form == .keyValue then toPattern role.element value else pure value
    let form := if form == .coverDefault then .shorthandDefault else form
    let rest ← toProperties role objectStart rest
    return .binary span form key value :: rest
  | .unary span _ arg :: rest => do
    if !rest.isEmpty then note span.lo .restNotLast else checkTrailingComma objectStart
    let arg ←
      if role.element != .bindingElement then toPattern role.element arg
      else if arg.isName then pure arg
      else
        note span.lo .restWithoutName
        pure (Node.leaf span .invalid)
    if arg.isDefault then note span.lo .restWithDefault
    let rest ← toProperties role objectStart rest
    return .unary span (.rest (dotsOf span)) arg :: rest
  | n :: _ => refuse n.span.lo .notAPattern

/-- Reads the elements of an array literal as those of a pattern; told whether a hole ends them.
Holes at the end are dropped. -/
def toElements (role : PatternRole) (arrayStart : Nat) (endInHole : Bool) :
    List Node → Parse (List Node)
  | [] => return []
  | .leaf span .hole :: rest => do
    let rest' ← toElements role arrayStart endInHole rest
    return if rest.all Node.isHole then [] else .leaf span .hole :: rest'
  | .unary span .spread arg :: rest => do
    if endInHole || !rest.isEmpty then
      note span.lo .restNotLast
      toElements role arrayStart endInHole rest
    else
      if arg.isAssignment then note span.lo .restWithDefault
      checkTrailingComma arrayStart
      return [.unary arg.span (.rest (dotsOf span)) (← toPattern role.element arg)]
  | n :: rest => do
    let n ← toPattern role.element n
    let rest ← toElements role arrayStart endInHole rest
    return n :: rest

end

/-- Notes names of parameters that strict rules protect: `eval` and `arguments`. -/
def checkParameterNames (params : List Node) : Parse Unit := do
  if (← context).strict then
    for label in params.flatMap Node.boundNames do
      if Node.isProtectedName label.text then
        noteInModule label.span.lo .evalOrArgumentsBinding

/-- `parse_paren_items_as_params`: reads what stands between parentheses as the parameters of an
arrow function. -/
def toParameters (trailingComma : Option Nat) (items : List Node) : Parse (List Node) := do
  let params ← go items
  checkParameterNames params
  return params
where
  /-- Reads the items as parameters. -/
  go : List Node → Parse (List Node)
    | [] => return []
    | n :: rest => do
      let read ←
        match n with
        | .unary span .spread arg =>
          if !rest.isEmpty then
            note span.lo .restParameterNotLast
            pure []
          else
            if arg.isAssignment then note span.lo .restWithDefault
            if let some comma := trailingComma then note comma .commaAfterRest
            pure [Node.unary arg.span (.rest (dotsOf span)) (← toPattern .binding arg)]
        | _ => pure [← toPattern .binding n]
      return read ++ (← go rest)

/-! ## Names -/

/-- `parse_ident`: takes a name; told whether `yield` and `await` are names here. -/
def name (yieldIsName awaitIsName : Bool) : Parse Label := do
  let lo ← start
  match ← need with
  | .word w =>
    bump
    if w == "enum" then note lo (.reservedInStrict w)
    else if w == "yield" || w == "let" || w == "static" || Word.strictlyReserved.contains w then
      noteInModule lo (.reservedInStrict w)
    let ctx ← context
    if w == "await" && ctx.inStaticBlock then refuse lo .expectedName
    if w == "await" && (ctx.inAsync || ctx.inModule) then refuse lo .awaitAsName
    if w == "arguments" && ctx.inField then note lo .argumentsInField
    let fits := Word.isPlain w || w == "let" || (w == "yield" && yieldIsName)
      || (w == "await" && awaitIsName)
    if fits then return ⟨← spanFrom lo, w⟩ else refuse lo .expectedName
  | .escapedName w =>
    bump
    return ⟨← spanFrom lo, w⟩
  | _ => refuse (← here) .expectedName

/-- `parse_ident_name`: takes a word where any word will do, as behind the point of a property
access. -/
def anyWord : Parse Label := do
  let lo ← start
  match (← need).wordText? with
  | some w =>
    bump
    return ⟨← spanFrom lo, w⟩
  | none => refuse (← here) .expectedName

/-- `parse_ident_ref`: takes a name that is referred to or serves as a label. -/
def reference : Parse Label := do
  let ctx ← context
  name (!ctx.inGenerator) (!ctx.inAsync)

/-- `parse_binding_ident`: takes a name that is declared; told whether `let` is no name. -/
def declaredName (letIsReserved : Bool) : Parse Label := do
  if letIsReserved && (← isAt "let") then
    unexpected "let is reserved in const, let, class declaration"
  let label ← name true true
  if Node.isProtectedName label.text then
    noteInModule label.span.lo .evalOrArgumentsBinding
  let ctx ← context
  if label.text == "await" && (ctx.inAsync || ctx.inStaticBlock) then
    note label.span.lo .expectedName
  if label.text == "yield" && ctx.inGenerator then note label.span.lo .expectedName
  return label

end Parse

/-- The name as a node. -/
def Label.node (l : Label) : Node := .leaf l.span (.name l.text)

end LoopGuard
