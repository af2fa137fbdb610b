import LoopGuard.Syntax.Span

/-!
# Syntax trees

The tree of `swc_ecma_ast` for a script or module. Everything below a statement (expressions,
patterns, class members, declarators) is a `Node`; the shape of a node is given by how many children
it has, and a form says which construct it is. Statements have a constructor each, and the five
loops are one constructor, `Stmt.loop`, with a `LoopHead`.

Statements occur inside nodes only through function bodies and static blocks, so a walk that looks
for loops passes through every node form in the same way. The children of a node are in the order in
which `swc_ecma_visit` goes through the fields, which is not always the order in which they are
written: a class has its members before its heritage, and a `do` loop its test before its body.

There are no types, decorators, markup or `using` declarations: the program parses with the default
options, under which a text with any of them is refused. Literals keep the text they are written
with, because the printer repeats it.
-/

namespace LoopGuard

/-- What an import asks of a module: to be evaluated, which is what it asks for without a word, or a
form of it from before that. -/
inductive ImportPhase where
  | evaluation
  | source
  | defer
  deriving Repr, DecidableEq, Inhabited

namespace ImportPhase

/-- The word for a phase, if it has one. -/
def word? : ImportPhase → Option String
  | evaluation => none
  | source => some "source"
  | defer => some "defer"

/-- The phase that a word stands for. -/
def ofWord? (w : String) : Option ImportPhase := [source, defer].find? (·.word? == some w)

end ImportPhase

/-- Nodes without children. Literals keep the text they are written with. -/
inductive Leaf where
  /-- A name, with its escapes resolved. -/
  | name (text : String)
  /-- A private name, without its number sign. -/
  | privateName (text : String)
  | this
  | super
  /-- The callee of a dynamic import. -/
  | importKeyword (phase : ImportPhase)
  | importMeta
  | newTarget
  | null
  | boolean (value : Bool)
  | number (raw : String)
  | bigint (raw : String)
  /-- A string, with the text it stands for. -/
  | string (value raw : String)
  | regex (raw : String)
  /-- A stretch of template text between substitutions; told whether the template has a tag. -/
  | chunk (raw : String) (isTagged : Bool)
  /-- An elided array element, which has no place. -/
  | hole
  /-- A `yield` without an operand. -/
  | yieldNothing
  /-- A lone semicolon between class members. -/
  | emptyMember
  /-- What stands where recovery found nothing usable. -/
  | invalid
  deriving Repr, DecidableEq, Inhabited

/-- Nodes with one child. -/
inductive UnaryForm where
  /-- `-x`, `typeof x` and their kin, named by the operator. -/
  | operator (op : String)
  /-- `++x` and `--x`. -/
  | updateBefore (op : String)
  /-- `x++` and `x--`. -/
  | updateAfter (op : String)
  | await
  | yield (delegate : Bool)
  /-- `...x` in an array or a list of arguments. -/
  | spread
  /-- `...x` in an object. -/
  | spreadProperty
  /-- `...x` in a pattern or a parameter list, with the place of the dots. -/
  | rest (dots : Span)
  | paren
  /-- A computed key `[x]` of a property or of a property access. -/
  | computed
  /-- A class field without a value. -/
  | field (isStatic : Bool)
  deriving Repr, DecidableEq, Inhabited

/-- Nodes with two children. -/
inductive BinaryForm where
  /-- `a + b`, `a in b` and their kin, named by the operator. -/
  | operator (op : String)
  /-- `a = b`, `a += b` and their kin, named by the operator. -/
  | assign (op : String)
  /-- `a.b`, or `a[b]` if the key is computed; inside an optional chain the link is `a?.b` or a
  later `.b`. -/
  | member (inChain isOptional : Bool)
  /-- `super.b` or `super[b]`. -/
  | superMember
  /-- `key: value` in an object literal or an object pattern. -/
  | keyValue
  /-- `name = value` in an object literal, legal only where it becomes a pattern. -/
  | coverDefault
  /-- A pattern with a default value. -/
  | default
  /-- A default value for a shorthand name in an object pattern. -/
  | shorthandDefault
  /-- A declared pattern with its initial value. -/
  | declarator
  /-- A class field with its value. -/
  | field (isStatic : Bool)
  /-- A tag and the template it is applied to. -/
  | tagged
  deriving Repr, DecidableEq, Inhabited

/-- The word that opens a variable declaration. -/
inductive VariableKind where
  | var
  | let
  | const
  deriving Repr, DecidableEq, Inhabited

namespace VariableKind

/-- The word as it is written. -/
def text : VariableKind → String
  | var => "var"
  | «let» => "let"
  | const => "const"

end VariableKind

/-- Nodes with a list of children. -/
inductive GroupForm where
  | array
  | arrayPattern
  | object
  | objectPattern
  | sequence
  /-- Template text and substitutions, alternating, text first and last. -/
  | template
  | variables (kind : VariableKind)
  deriving Repr, DecidableEq, Inhabited

/-- Nodes with a callee and arguments. -/
inductive CallForm where
  | call
  /-- `new f(…)`. -/
  | new
  /-- `new f` without an argument list. -/
  | newBare
  /-- A call inside an optional chain. -/
  | chain (isOptional : Bool)
  deriving Repr, DecidableEq, Inhabited

/-- What a method-like member of a class does. -/
inductive MethodKind where
  | method
  | getter
  | setter
  deriving Repr, DecidableEq, Inhabited

/-- Nodes with parameters and a block. -/
inductive FunctionForm where
  | function (isAsync isGenerator : Bool)
  | arrow (isAsync : Bool)
  /-- A method of an object literal. -/
  | method (isAsync isGenerator : Bool)
  /-- A getter of an object literal. -/
  | getter
  /-- A setter of an object literal. -/
  | setter
  | member (isStatic : Bool) (kind : MethodKind) (isAsync isGenerator : Bool)
  | constructor
  | staticBlock
  deriving Repr, DecidableEq, Inhabited

/-- A label, or the target of a jump. -/
structure Label where
  span : Span
  text : String
  deriving Repr, DecidableEq, Inhabited

/-- The two jumps that may name a label. -/
inductive JumpKind where
  | «break»
  | «continue»
  deriving Repr, DecidableEq, Inhabited

mutual

/-- Expressions, patterns, class members and declarators. -/
inductive Node where
  | leaf (span : Span) (leaf : Leaf)
  | unary (span : Span) (form : UnaryForm) (arg : Node)
  | binary (span : Span) (form : BinaryForm) (left right : Node)
  | conditional (span : Span) (test consequent alternate : Node)
  | group (span : Span) (form : GroupForm) (items : List Node)
  | call (span : Span) (form : CallForm) (callee : Node) (args : List Node)
  | function (span : Span) (form : FunctionForm) (name : Option Node) (params : List Node)
      (body : Block)
  /-- An arrow function whose body is an expression. -/
  | arrow (span : Span) (isAsync : Bool) (params : List Node) (body : Node)
  | «class» (span : Span) (name : Option Node) (members : List Node) (heritage : Option Node)

/-- Statements between braces. -/
inductive Block where
  | mk (span : Span) (stmts : List Stmt)

/-- Statements. -/
inductive Stmt where
  | empty (span : Span)
  | debugger (span : Span)
  | expression (span : Span) (expr : Node)
  /-- A function, a class or variables. -/
  | declaration (decl : Node)
  | block (block : Block)
  | «return» (span : Span) (value : Option Node)
  | throw (span : Span) (value : Node)
  | jump (span : Span) (kind : JumpKind) (target : Option Label)
  | labeled (span : Span) (label : Label) (body : Stmt)
  | withObject (span : Span) (object : Node) (body : Stmt)
  | branch (span : Span) (test : Node) (consequent : Stmt) (alternate : Option Stmt)
  | switch (span : Span) (subject : Node) (cases : List Case)
  | «try» (span : Span) (body : Block) (handler : Option Handler) (finalizer : Option Block)
  | loop (span : Span) (head : LoopHead) (body : Stmt)

/-- A `case` clause, or the `default` clause, which has no test. -/
inductive Case where
  | mk (span : Span) (test : Option Node) (body : List Stmt)

/-- A `catch` clause. -/
inductive Handler where
  | mk (span : Span) (param : Option Node) (body : Block)

/-- What makes a loop go round. -/
inductive LoopHead where
  | «while» (test : Node)
  | doWhile (test : Node)
  | «for» (init test update : Option Node)
  | forIn (left right : Node)
  | forOf (isAwait : Bool) (left right : Node)

end

instance : Inhabited Node := ⟨.leaf .synthetic .invalid⟩
instance : Inhabited Block := ⟨.mk .synthetic []⟩
instance : Inhabited Stmt := ⟨.empty .synthetic⟩

namespace Node

/-- Where the node stands. -/
def span : Node → Span
  | leaf s .. | unary s .. | binary s .. | conditional s .. | group s .. | call s .. | function s ..
  | arrow s .. | «class» s .. => s

end Node

namespace Block

/-- Where the block stands, braces included. -/
def span : Block → Span
  | mk s _ => s

/-- The statements between the braces. -/
def stmts : Block → List Stmt
  | mk _ stmts => stmts

end Block

namespace Stmt

/-- Where the statement stands. -/
def span : Stmt → Span
  | empty s | debugger s | expression s _ | «return» s _ | throw s _ | jump s _ _ | labeled s _ _
  | withObject s _ _ | branch s _ _ _ | switch s _ _ | «try» s _ _ _ | loop s _ _ => s
  | declaration d => d.span
  | block b => b.span

end Stmt

/-- A name as another module knows it: a word or a string literal, with what it stands for. -/
inductive ExternalName where
  | word (span : Span) (text : String)
  | string (span : Span) (value raw : String)
  deriving Repr, DecidableEq, Inhabited

namespace ExternalName

/-- Where the name stands. -/
def span : ExternalName → Span
  | word s _ | string s _ _ => s

/-- What the name stands for. -/
def text : ExternalName → String
  | word _ text => text
  | string _ value _ => value

end ExternalName

/-- A string literal that names a module, with what it stands for. -/
structure ModuleName where
  span : Span
  value : String
  raw : String
  deriving Repr, DecidableEq, Inhabited

/-- One binding of an import declaration. -/
inductive ImportSpecifier where
  | default (span : Span) (binding : Label)
  | namespace (span : Span) (binding : Label)
  | named (span : Span) (imported : Option ExternalName) (binding : Label)
  deriving Repr, DecidableEq, Inhabited

/-- One entry of an export list. -/
inductive ExportSpecifier where
  | namespace (span : Span) (exported : ExternalName)
  | named (span : Span) (name : ExternalName) (exported : Option ExternalName)
  deriving Repr, DecidableEq, Inhabited

/-- An element of a script or module: a statement, or a declaration about other modules. -/
inductive Item where
  | stmt (stmt : Stmt)
  /-- `endsInComma` says how a list of names in braces is closed. -/
  | imports (span : Span) (phase : ImportPhase) (specifiers : List ImportSpecifier)
      (source : ModuleName) (endsInComma : Bool)
  | exportList (span : Span) (specifiers : List ExportSpecifier) (source : Option ModuleName)
      (endsInComma : Bool)
  | exportAll (span : Span) (source : ModuleName)
  /-- `export` in front of a declaration. -/
  | exportDecl (span : Span) (decl : Node)
  /-- `export default` in front of an expression. -/
  | exportValue (span : Span) (value : Node)
  /-- `export default` in front of a function or class, which may lack a name. -/
  | exportDefault (span : Span) (decl : Node)

/-- A script or module with the line that may precede it. -/
structure Program where
  span : Span
  /-- Text of a first line that starts with `#!`, without these two characters. -/
  shebang : Option String
  items : List Item

end LoopGuard
