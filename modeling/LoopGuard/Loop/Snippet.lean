import LoopGuard.Syntax.Unplaced
import LoopGuard.Transform

/-!
# Calls as text

Model of `Snippets`, `parse_statement` and `is_valid_alias`: the statements put around a loop as the
source text they stand for, which is the text of the alias with a call behind it, read as a script.
A text that is not the one statement it should be is put down to the alias. An alias is itself
checked by being read.

The walk uses the statements as trees (`Stmt.reset`, `Stmt.guard`) and the alias as a path of names
(`Alias.ofString?`). Both are proved to be what these texts are read as.
-/

namespace LoopGuard

/-- `parse_statement`: the statement that a text is, without places, if the text is a script of one
statement and the parser has nothing to report, be it fatal or not. -/
def Stmt.ofText? (text : String) : Option Stmt :=
  let source := text.toList.toArray
  let grammar := Grammar.ofDepth Grammar.level (nestingBound source.size)
  match Parse.program (Grammar.level fun _ => grammar) { lexer := { source } } with
  | .error _ _ => none
  | .ok program r =>
    if r.foundModuleItem || !r.lexer.faults.isEmpty then none
    else
      match program.items with
      | [.stmt s] => some s.unplaced
      | _ => none

namespace Alias

/-- The characters an identifier starts with by the first check: all letters, whether the parser
takes them or not, and two marks. -/
def startsIdentifier (c : Char) : Bool := c == '_' || c == '$' || CharSet.alphabetic.contains c

/-- The characters an identifier goes on with by the first check: all letters and numbers, and two
marks. -/
def continuesIdentifier (c : Char) : Bool :=
  c == '_' || c == '$' || (CharSet.alphabetic.contains c || CharSet.numeric.contains c)

/-- `is_identifier`: whether the characters form an identifier by the first check. -/
def isIdentifier : List Char → Bool
  | [] => false
  | c :: rest => startsIdentifier c && rest.all continuesIdentifier

/-- `is_valid_alias` as the program has it: there are identifiers between the points of the text,
the first of them is free, and the text is one statement when a semicolon follows. -/
def passes (text : String) : Bool :=
  match segments text.toList with
  | [] => false
  | root :: properties =>
    (root :: properties).all isIdentifier && !reserved.contains (String.ofList root)
      && (Stmt.ofText? (text ++ ";")).isSome

end Alias

namespace Snippet

/-- The text of the call that starts a loop's clock, with the options as JSON. -/
def resetText (guardAlias : String) (o : ResetOptions) : String :=
  guardAlias ++ ".reset(" ++ o.encode ++ ");"

/-- The text of the check that leaves a loop, as the body of a loop: elsewhere a `break` would not
be read. -/
def guardText (guardAlias : String) (key : LoopKey) : String :=
  "while (true) if (" ++ guardAlias ++ ".guard(" ++ key.encode ++ ")) break;"

/-- `Snippets.reset`: the call that starts a loop's clock. -/
def reset (guardAlias : String) (site : LoopSite) : Except TransformError Stmt :=
  match Stmt.ofText? (resetText guardAlias site.resetOptions) with
  | some s => .ok s
  | none => .error (.invalidAlias guardAlias)

/-- `Snippets.guard`: the check that leaves a loop, taken out of the loop around it. It must be an
`if` statement. -/
def guard (guardAlias : String) (key : LoopKey) : Except TransformError Stmt :=
  match Stmt.ofText? (guardText guardAlias key) with
  | some (.loop _ (.while _) (.branch span test yes no)) => .ok (.branch span test yes no)
  | _ => .error (.invalidAlias guardAlias)

end Snippet

end LoopGuard
