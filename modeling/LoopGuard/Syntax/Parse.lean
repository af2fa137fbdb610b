import LoopGuard.Syntax.Parser.Module

/-!
# Reading a source text

`parse_program`: the grammar closed over itself, and the tree of a text or the fault it is refused
for. A text is refused also for faults that reading went on after (`take_errors`); the first of them
counts, unless reading ended with a fault of its own.

The parser of `swc_ecma_parser` is recursive, and its recursion is bounded only by the stack. Here a
grammar is made for a depth of nesting that no text of the given length can reach.
-/

namespace LoopGuard

/-- Each construct, given the grammar for what lies inside it. -/
def Grammar.level (inner : Unit → Grammar) : Grammar where
  assignment r := Parse.assignment (inner ()) r
  expression r := Parse.expression (inner ()) r
  unary r := Parse.unary (inner ()) r
  leftHandSide r := Parse.leftHandSide (inner ()) r
  operators left least r := Parse.operators (inner ()) left least r
  member bare r := Parse.member (inner ()) bare r
  accesses lo object noCall r := Parse.accesses (inner ()) lo object noCall r
  binding letIsReserved r := Parse.binding (inner ()) letIsReserved r
  statement declarations top r := Parse.statement (inner ()) declarations top r
  block directives r := Parse.block (inner ()) directives r

/-- A text that has been read. -/
structure ParsedText where
  program : Program
  comments : Comments

/-- How deep constructs of a text of this many characters can nest. Between two characters taken,
the grammar comes back to itself a bounded number of times. -/
def nestingBound (size : Nat) : Nat := 64 * (size + 2)

/-- `parse_program`: reads a script or module, with its comments. -/
def ParsedText.ofSource (source : Array Char) : Except Diagnostic ParsedText :=
  let grammar := Grammar.ofDepth Grammar.level (nestingBound source.size)
  match Parse.program (Grammar.level fun _ => grammar) { lexer := { source } } with
  | .error d _ => .error d
  | .ok program r =>
    match r.lexer.faults[0]? with
    | some d => .error d
    | none => .ok ⟨program, r.lexer.comments⟩

end LoopGuard
