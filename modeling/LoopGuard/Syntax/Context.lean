/-!
# Reading contexts

What the words of a program mean depends on where they stand: whether `yield` is a name, whether
`break` has something to leave, whether strict rules apply. A `Context` says where the reader is, as
the `Context` of `swc_ecma_parser` does. Its marks for types, decorators and markup are left out,
since the program parses plain scripts and modules only.
-/

namespace LoopGuard

/-- Where the reader is. The marks are set and taken back by the constructs around it. -/
structure Context where
  /-- Import or export declarations have made the text a module. -/
  inModule : Bool := false
  /-- Strict rules apply to literals. -/
  strict : Bool := false
  /-- `in` is an operator here, and not the middle of a loop head. -/
  allowIn : Bool := false
  /-- The head of a `for` loop starts here. -/
  loopHead : Bool := false
  /-- The head belongs to a `for await` loop. -/
  awaitLoopHead : Bool := false
  inFunction : Bool := false
  /-- Some enclosing function is not an arrow function. -/
  inOwnScope : Bool := false
  inAsync : Bool := false
  inGenerator : Bool := false
  inParameters : Bool := false
  /-- Inside a class, its heritage and the names of its members included. -/
  inClass : Bool := false
  inField : Bool := false
  inStaticBlock : Bool := false
  allowBreak : Bool := false
  allowContinue : Bool := false
  allowSuper : Bool := false
  deriving Repr, DecidableEq, Inhabited

namespace Word

/-- Words with a meaning of their own in the grammar. A word that is none of these can be a name
somewhere. -/
def keywords : List String :=
  ["await", "break", "case", "catch", "class", "const", "continue", "debugger", "default", "delete",
   "do", "else", "export", "extends", "finally", "for", "function", "if", "import", "in",
   "instanceof", "let", "new", "return", "super", "switch", "this", "throw", "try", "typeof", "var",
   "void", "while", "with", "yield"]

/-- Literals that look like words. -/
def literals : List String := ["null", "true", "false"]

/-- Whether a word is neither a keyword nor a literal. -/
def isPlain (w : String) : Bool := !keywords.contains w && !literals.contains w

/-- Words that are never names. -/
def alwaysReserved : List String :=
  ["break", "case", "catch", "class", "const", "continue", "debugger", "default", "delete", "do",
   "else", "enum", "export", "extends", "false", "finally", "for", "function", "if", "import", "in",
   "instanceof", "new", "null", "return", "super", "switch", "this", "throw", "true", "try",
   "typeof", "var", "void", "while", "with"]

/-- Words that strict code keeps for the future. -/
def strictlyReserved : List String :=
  ["implements", "interface", "package", "private", "protected", "public"]

/-- Words that an export list without a module name cannot offer. -/
def unexportable : List String :=
  ["break", "case", "catch", "class", "const", "continue", "debugger", "default", "delete", "do",
   "else", "enum", "export", "extends", "false", "finally", "for", "function", "if", "import", "in",
   "instanceof", "new", "null", "package", "return", "super", "switch", "this", "throw", "true",
   "try", "typeof", "var", "void", "while", "with"]

end Word

namespace Context

/-- Whether a word cannot be a name in this context: it never can, or strict rules, a generator or
asynchronous code forbid it. -/
def isReserved (ctx : Context) (w : String) : Bool :=
  Word.alwaysReserved.contains w
    || (w == "let" && ctx.strict)
    || (w == "yield" && (ctx.inGenerator || ctx.strict))
    || (w == "await" && (ctx.inAsync || ctx.inStaticBlock || ctx.strict))
    || (Word.strictlyReserved.contains w && ctx.strict)

end Context

end LoopGuard
