import LoopGuard.ResetOptions
import LoopGuard.Syntax.Tree

/-!
# Loop sites

Model of `LoopKind`, `Iteration`, `InsertionContext` and `LoopSite`: what is known about an
instrumented loop, which is its kind, where it and its reset call stand, and its key. A site has two
positions. The generated one, in the code that is instrumented, makes the key; the original one,
which an input source map may give, is only for diagnostics.
-/

namespace LoopGuard

/-- `Iteration`: what a `for` loop goes over. -/
inductive Iteration where
  /-- `for (init; test; update)`. -/
  | indexed
  /-- `for (x in y)`. -/
  | inKeys
  /-- `for (x of y)`, with or without `await`. -/
  | ofValues
  deriving Repr, DecidableEq, Inhabited

/-- `LoopKind`: the shape of a loop, by when its condition is asked. -/
inductive LoopKind where
  /-- A `while` loop. -/
  | preTest
  /-- A `do` loop. -/
  | postTest
  /-- A `for` loop. -/
  | iterating (iteration : Iteration)
  deriving Repr, DecidableEq, Inhabited

namespace LoopKind

/-- `LoopKind.syntax_name`: the ESTree name of the loop's statement. -/
def syntaxName : LoopKind → String
  | preTest => "WhileStatement"
  | postTest => "DoWhileStatement"
  | iterating .indexed => "ForStatement"
  | iterating .inKeys => "ForInStatement"
  | iterating .ofValues => "ForOfStatement"

end LoopKind

/-- `LoopKind.of`: the shape of the loop with this head. Only loops have a head here, so every one
has a shape. -/
def LoopHead.kind : LoopHead → LoopKind
  | .while _ => .preTest
  | .doWhile _ => .postTest
  | .for _ _ _ => .iterating .indexed
  | .forIn _ _ => .iterating .inKeys
  | .forOf _ _ _ => .iterating .ofValues

/-- `InsertionContext`: where the reset call of a loop goes. -/
inductive InsertionContext where
  /-- A block, a function body, or the top of a script or module. -/
  | sequence
  /-- The body of a `case` or `default` clause. -/
  | switchArm
  /-- An arm of an `if`, which becomes a block. -/
  | branchArm
  deriving Repr, DecidableEq, Inhabited

namespace InsertionContext

/-- The debug name of the context, as events show it. -/
def name : InsertionContext → String
  | sequence => "Sequence"
  | switchArm => "SwitchArm"
  | branchArm => "BranchArm"

end InsertionContext

/-- `LoopSite`: an instrumented loop. -/
structure LoopSite where
  key : LoopKey
  file : String
  kind : LoopKind
  context : InsertionContext
  /-- The position in the instrumented code. -/
  generated : Position
  /-- The position that diagnostics name. -/
  original : Position
  deriving Repr, DecidableEq, Inhabited

namespace LoopSite

/-- `LoopSite.new`: the site of a loop, with the key that its file and its generated position
make. -/
def of (file : String) (kind : LoopKind) (context : InsertionContext)
    (generated original : Position) :
    LoopSite :=
  ⟨LoopKey.of file generated, file, kind, context, generated, original⟩

/-- `LoopSite.reset_options`: the argument of the loop's reset call, with the original position. -/
def resetOptions (s : LoopSite) : ResetOptions :=
  ⟨s.key.text, s.file, s.original.line, s.original.column⟩

end LoopSite

end LoopGuard
