import LoopGuard.Syntax.Printer.Writer
import LoopGuard.Syntax.Tree

/-!
# The layout of nodes

How a node is written, given the writers of its children: the elements of array and object literals
go on lines of their own, patterns and parameters on one line. Literals are written as they were
read. Layout, comments and source map marks are those of `swc_ecma_codegen` with its default
options.
-/

namespace LoopGuard

/-- A child of a node: where it stands, and its writer. -/
structure WrittenChild where
  span : Span
  /-- Writes the child, without the comments behind it. -/
  bare : Emit Unit

namespace WrittenChild

/-- Writes a child and the comments behind it. -/
def whole (c : WrittenChild) : Emit Unit := do
  c.bare
  Emit.trailing c.span

/-- Writes a child that may be missing. -/
def bare? : Option WrittenChild → Emit Unit
  | none => pure ()
  | some c => c.bare

/-- Writes a child that may be missing and the comments behind it. -/
def whole? : Option WrittenChild → Emit Unit
  | none => pure ()
  | some c => c.whole

end WrittenChild

namespace Layout

open Emit

/-! ## Lists -/

/-- Writes things one after the other, with a comma between them. -/
def separated : List (Emit Unit) → Emit Unit
  | [] => pure ()
  | [item] => item
  | item :: rest => do
    item
    put ", "
    separated rest

/-- Writes an element of a list on one line, given its writer. The comments behind it that have not
been written come before the comma. -/
def element (span : Span) (write : Emit Unit) : Emit Unit := do
  write
  trailingElement span

/-- The writers of the elements of a list on one line, which do not write the comments behind them
as those of a node. -/
def bareElements (items : List WrittenChild) : List (Emit Unit) :=
  items.map fun c => element c.span c.bare

/-- The writers of the elements of a list on one line. -/
def elements (items : List WrittenChild) : List (Emit Unit) :=
  items.map fun c => element c.span c.whole

/-- Writes each thing on a line of its own. -/
def eachOnLine : List (Emit Unit) → Emit Unit
  | [] => pure ()
  | item :: rest => do
    line
    item
    eachOnLine rest

/-- Writes each thing on a line of its own, with commas between them. -/
def eachOnCommaLine : List (Emit Unit) → Emit Unit
  | [] => pure ()
  | [item] => do
    line
    item
  | item :: rest => do
    line
    item
    put ","
    eachOnCommaLine rest

/-- Writes lines one level further in, then starts the line that closes them. Without lines there is
only the end of the present one. -/
def indentedLines (items : List (Emit Unit)) : Emit Unit := do
  indented (eachOnLine items)
  line

/-- Writes parameters or arguments, separated by commas on one line. -/
def parenthesized (items : List WrittenChild) : Emit Unit := do
  put "("
  separated (elements items)
  put ")"

/-- `emit_block_stmt`: writes statements between braces; told whether the opening brace is marked. A
block without statements stays on one line, unless comments stand in front of its closing brace. -/
def braces (isMarked : Bool) (span : Span) (stmts : List (Emit Unit)) : Emit Unit := do
  leading span
  if isMarked then markStart span
  put "\x7b"
  if !stmts.isEmpty || (← hasLeadingLast span) then indentedLines stmts
  leadingLast span
  markLast span
  put "\x7d"

/-! ## Leaves -/

/-- The text of a leaf. Literals keep the text they were read with. -/
def leafText : Leaf → String
  | .name text => text
  | .privateName text => "#" ++ text
  | .this => "this"
  | .super => "super"
  | .importKeyword _ => "import"
  | .importMeta => "import.meta"
  | .newTarget => "new.target"
  | .null => "null"
  | .boolean value => if value then "true" else "false"
  | .number raw | .bigint raw | .string _ raw | .regex raw => raw
  | .chunk raw _ => raw
  | .hole => ""
  | .yieldNothing => "yield"
  | .emptyMember => ";"
  | .invalid => "<invalid>"

/-- Template text with its line ends written as line feeds. -/
def normalizeLines : List Char → List Char
  | [] => []
  | '\r' :: '\n' :: rest => '\n' :: normalizeLines rest
  | c :: rest => (if c == '\r' then '\n' else c) :: normalizeLines rest

/-- Writes a string. One that only its escapes keep from being a directive for strict rules is
marked behind. -/
def stringText (span : Span) (value raw : String) : Emit Unit := do
  leading span
  markStart span
  put raw
  if value == "use strict" && raw.toList.contains '\\' then markEnd span

/-- Writes a leaf, behind the comments and the mark at its start. Some are marked behind, too. -/
def leaf (span : Span) : Leaf → Emit Unit
  | .chunk raw isTagged =>
    if isTagged then do
      markStart span
      put raw
      markEnd span
    else if raw.isEmpty then pure ()
    else do
      markStart span
      put (String.ofList (normalizeLines raw.toList))
      markEnd span
  | .string value raw => stringText span value raw
  | .emptyMember => do
    leading span
    put ";"
  | .bigint raw => do
    leading span
    markStart span
    if let .source lo _ := span then markHere lo
    put raw
    if let .source _ hi := span then markHere hi
  | .importKeyword phase => do
    leading span
    markStart span
    put "import"
    markEnd span
    if let some word := phase.word? then put ("." ++ word)
  | .privateName text => do
    leading span
    markStart span
    put "#"
    markStart span
    put text
    markEnd span
  | l => do
    leading span
    markStart span
    put (leafText l)
    if l == .this || l == .super then markEnd span

/-! ## Nodes with few children -/

/-- Whether a space must keep a prefix operator from its operand, which would become another
operator with it. -/
def needsSpace (op : String) : Node → Bool
  | .unary _ (.operator inner) _ => op == inner && (op == "+" || op == "-")
  | .unary _ (.updateBefore inner) _ => (op == "+" && inner == "++") || (op == "-" && inner == "--")
  | _ => false

/-- Whether a prefix operator is a word. -/
def isWordOperator (op : String) : Bool := op == "typeof" || op == "void" || op == "delete"

/-- What stands between an object and the name of its property. -/
def accessMark (isOptional isComputed : Bool) : String :=
  if isOptional then "?." else if isComputed then "" else "."

/-- Whether a key is computed. -/
def isComputed : Node → Bool
  | .unary _ .computed _ => true
  | _ => false

/-- Whether a node is a number. -/
def isNumber : Node → Bool
  | .leaf _ (.number _) => true
  | _ => false

/-- Whether a point behind a number would be read as part of it. Separators between the digits
change nothing, and a leading zero makes a number that has no fraction. -/
def swallowsPoint : Node → Bool
  | .leaf _ (.number raw) =>
    let digits := raw.toList.filter (· != '_')
    digits.all Char.isDigit && !(digits.head? == some '0' && 2 ≤ digits.length)
  | _ => false

/-- Writes what stands between an object and the name of its property, outside optional chains;
told whether the object would swallow a point. -/
def point (swallows : Bool) (key : Span) : Emit Unit := do
  if swallows then
    leadingBefore 2 key
    put "."
  leadingBefore 1 key
  put "."

/-- Whether a node creates an object. -/
def isConstruction : Node → Bool
  | .call _ .new _ _ | .call _ .newBare _ _ => true
  | _ => false

/-- Writes what something is done with: its property read, a call, its use as a tag. The comments
behind a construction are not written. -/
def receiver (n : Node) (c : WrittenChild) : Emit Unit :=
  if isConstruction n then c.bare else c.whole

/-- `emit_member_expr`: writes a property access outside optional chains. The comments behind a
number are not written. -/
def access (span : Span) (object key : Node) (left right : WrittenChild) : Emit Unit := do
  markStart span
  if isNumber object then left.bare else receiver object left
  if !isComputed key then point (swallowsPoint object) right.span
  right.bare
  markEnd span

/-- Whether a node with one child is marked at its start. -/
def marksStart : UnaryForm → Bool
  | .spread | .rest _ => false
  | _ => true

/-- Writes a node with one child; told whether a prefix operator needs a space. Which sides are
marked differs from form to form. -/
def unary (span : Span) (form : UnaryForm) (spaced : Bool) (arg : WrittenChild) : Emit Unit := do
  if form != .computed then leading span
  if marksStart form then markStart span
  match form with
  | .spread =>
    put "..."
    arg.whole
  | .spreadProperty =>
    put "..."
    arg.whole
    markEnd span
  | .operator op =>
    put op
    if spaced then space
    arg.whole
  | .updateBefore op =>
    put op
    arg.whole
  | .updateAfter op =>
    arg.whole
    put op
  | .await =>
    put "await "
    arg.whole
  | .yield delegate =>
    put (if delegate then "yield*" else "yield")
    if ← hasLeadingLineBreak arg.span then
      put "("
      arg.whole
      put ")"
    else
      space
      arg.whole
  | .rest dots =>
    putMarked dots "..."
    arg.whole
  | .paren =>
    put "("
    arg.whole
    markLast span
    put ")"
  | .computed =>
    put "["
    arg.whole
    put "]"
    markEnd span
  | .field isStatic =>
    if isStatic then put "static "
    arg.bare
    put ";"
    markEnd span

/-- Writes a node with two children, given these and their writers. Operators have a space on each
side. -/
def binary (span : Span) (form : BinaryForm) (leftNode rightNode : Node)
    (left right : WrittenChild) : Emit Unit := do
  leading span
  match form with
  | .operator op =>
    left.whole
    put (" " ++ op ++ " ")
    right.whole
  | .assign op =>
    left.bare
    put (" " ++ op ++ " ")
    right.whole
  | .member false _ => access span leftNode rightNode left right
  | .member true isOptional =>
    markStart span
    receiver leftNode left
    put (accessMark isOptional (isComputed rightNode))
    right.bare
  | .superMember =>
    left.bare
    put (accessMark false (isComputed rightNode))
    right.bare
  | .keyValue =>
    left.bare
    put ": "
    right.whole
  | .default =>
    markStart span
    left.whole
    put " = "
    right.whole
    markEnd span
  | .coverDefault =>
    markStart span
    left.bare
    put "="
    right.whole
  | .shorthandDefault =>
    markStart span
    left.bare
    put " = "
    right.whole
  | .declarator =>
    markStart span
    left.whole
    put " = "
    right.whole
  | .field isStatic =>
    markStart span
    if isStatic then put "static "
    left.bare
    put " = "
    right.whole
    put ";"
    markEnd span
  | .tagged =>
    markStart span
    receiver leftNode left
    right.bare

/-- `emit_cond_expr`: writes a conditional expression on one line. -/
def conditional (span : Span) (test yes no : WrittenChild) : Emit Unit := do
  leading span
  markStart span
  test.whole
  put " ? "
  yes.whole
  put " : "
  no.whole

/-! ## Nodes with lists of children -/

/-- Whether the last element of an array is elided. -/
def endsInHole (items : List Node) : Bool :=
  match items.getLast? with
  | some (.leaf _ .hole) => true
  | _ => false

/-- Writes the text and the substitutions of a template, in turns; told whether text is next. -/
def templateParts : Bool → List WrittenChild → Emit Unit
  | _, [] => pure ()
  | isText, part :: rest => do
    if isText then part.bare
    else
      put "$\x7b"
      part.whole
      put "\x7d"
    templateParts (!isText) rest

/-- Writes a node with a list of children; told whether the last one is a hole. Array and object
literals put each element on a line of its own. -/
def group (span : Span) (form : GroupForm) (endsInHole : Bool) (items : List WrittenChild) :
    Emit Unit := do
  leading span
  match form with
  | .array =>
    markStart span
    put "["
    if !items.isEmpty then
      indented do
        eachOnCommaLine (items.map (·.whole))
        if endsInHole then put ", "
      line
    put "]"
    markEnd span
  | .arrayPattern =>
    markStart span
    put "["
    separated (elements items)
    if endsInHole then put ", "
    put "]"
    markEnd span
  | .object =>
    markStart span
    put "\x7b"
    if !items.isEmpty || (← hasLeadingLast span) then
      indented (eachOnCommaLine (items.map (·.bare)))
      line
    markLast span
    put "\x7d"
  | .objectPattern =>
    markStart span
    put "\x7b"
    if !items.isEmpty then
      space
      separated (bareElements items)
      space
    put "\x7d"
    markEnd span
  | .sequence => separated (items.map (·.whole))
  | .template =>
    markStart span
    put "`"
    templateParts true items
    put "`"
    markEnd span
  | .variables kind =>
    markStart span
    put kind.text
    space
    separated (elements items)

/-- Whether a callee is a word that is no expression of its own. -/
def isCalleeWord : Node → Bool
  | .leaf _ .super | .leaf _ (.importKeyword _) => true
  | _ => false

/-- `emit_call_expr` and `emit_new_expr`: writes a call, given the callee and its writer. The
comments behind `super` and `import` are not written. -/
def call (span : Span) (form : CallForm) (calleeNode : Node) (callee : WrittenChild)
    (args : List WrittenChild) : Emit Unit := do
  leading span
  markStart span
  match form with
  | .call =>
    if isCalleeWord calleeNode then callee.bare else receiver calleeNode callee
    parenthesized args
  | .chain isOptional =>
    callee.whole
    if isOptional then put "?."
    parenthesized args
  | .new =>
    put "new "
    callee.whole
    parenthesized args
  | .newBare =>
    put "new "
    callee.whole

/-! ## Functions and classes -/

/-- A word, or nothing. -/
def wordIf (condition : Bool) (word : String) : String := if condition then word else ""

/-- The words in front of the name of a class member. -/
def memberWords (isStatic : Bool) (kind : MethodKind) (isAsync isGenerator : Bool) : String :=
  wordIf isStatic "static "
    ++ (match kind with
      | .method => ""
      | .getter => "get "
      | .setter => "set ")
    ++ wordIf isAsync "async " ++ wordIf isGenerator "*"

/-- Parameters that are marked behind. -/
def markedEnds (params : List WrittenChild) : List WrittenChild :=
  params.map fun p => ⟨p.span, do
    p.whole
    markEnd p.span⟩

/-- Writes the comments in front of the name of a class member. A private name keeps its own. -/
def memberComments (form : FunctionForm) (isPrivate : Bool) (name : Option WrittenChild) :
    Emit Unit :=
  match form, isPrivate, name with
  | .member .., false, some key => leading key.span
  | _, _, _ => pure ()

/-- Whether a key is a private name. -/
def isPrivateKey : Option Node → Bool
  | some (.leaf _ (.privateName _)) => true
  | _ => false

/-- Writes a node with parameters and a block; told whether its name is private. The block's writer
is told whether to mark its opening brace. -/
def function (span : Span) (form : FunctionForm) (isPrivate : Bool) (name : Option WrittenChild)
    (params : List WrittenChild) (body : Bool → Emit Unit) : Emit Unit := do
  leading span
  memberComments form isPrivate name
  markStart span
  match form with
  | .function isAsync isGenerator =>
    put (wordIf isAsync "async " ++ "function" ++ wordIf isGenerator "*")
    if name.isSome then space
    WrittenChild.bare? name
    parenthesized (markedEnds params)
    space
    body false
  | .arrow isAsync =>
    put (wordIf isAsync "async ")
    parenthesized params
    put "=>"
    body false
  | .method isAsync isGenerator =>
    put (wordIf isAsync "async " ++ wordIf isGenerator "*")
    WrittenChild.bare? name
    space
    parenthesized (markedEnds params)
    space
    body false
  | .getter =>
    put "get "
    WrittenChild.bare? name
    space
    parenthesized params
    space
    body true
  | .setter =>
    put "set "
    WrittenChild.bare? name
    space
    parenthesized params
    body true
  | .member isStatic kind isAsync isGenerator =>
    put (memberWords isStatic kind isAsync isGenerator)
    WrittenChild.bare? name
    parenthesized (markedEnds params)
    space
    body (!isPrivate)
  | .constructor =>
    put "constructor"
    parenthesized (markedEnds params)
    body true
  | .staticBlock =>
    put "static"
    body true
    markEnd span

/-- `emit_arrow_expr`: writes an arrow function whose body is an expression. Lines of the body are
one level further in. -/
def arrow (span : Span) (isAsync : Bool) (params : List WrittenChild) (body : WrittenChild) :
    Emit Unit := do
  leading span
  markStart span
  put (wordIf isAsync "async ")
  parenthesized params
  put "=>"
  indented body.whole

/-- `emit_class_decl` and `emit_class_expr`: writes a class, the heritage in front of the
members. -/
def classOf (span : Span) (name : Option WrittenChild) (members : List WrittenChild)
    (heritage : Option WrittenChild) : Emit Unit := do
  leading span
  markStart span
  put "class"
  if name.isSome then space
  WrittenChild.bare? name
  if heritage.isSome then put " extends "
  WrittenChild.whole? heritage
  put " \x7b"
  indentedLines (members.map (·.bare))
  markLast span
  put "\x7d"

end Layout

end LoopGuard
