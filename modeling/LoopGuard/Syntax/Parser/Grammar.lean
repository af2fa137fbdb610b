import LoopGuard.Syntax.Parser.Basic

/-!
# The recursive parts of the grammar

Expressions contain functions, functions contain statements, statements contain expressions. The
places where the grammar comes back to itself are the fields of a record; each construct is then a
plain function that is given the record for what lies inside it. The parser of the package has these
as mutually recursive methods.
-/

namespace LoopGuard

/-- How the constructs are read that may contain each other. -/
structure Grammar where
  /-- An expression without a comma at its top. -/
  assignment : Parse Node
  /-- An expression. -/
  expression : Parse Node
  /-- An operand with the operators in front of it. -/
  unary : Parse Node
  /-- The callee and arguments or member accesses of an expression that can be assigned to. -/
  leftHandSide : Parse Node
  /-- The binary operators behind an operand that bind tighter than a given strength. -/
  operators : Node → Nat → Parse Node
  /-- A member expression or `new` expression; told whether `new` may lack its arguments. -/
  member : Bool → Parse Node
  /-- The accesses, calls and templates behind an expression; told whether calls are left out. -/
  accesses : Nat → Node → Bool → Parse Node
  /-- A pattern that declares names; told whether `let` is no name. -/
  binding : Bool → Parse Node
  /-- A statement; told whether declarations are allowed, and whether it stands at the top. -/
  statement : Bool → Bool → Parse Stmt
  /-- A block; told whether a directive may open it. -/
  block : Bool → Parse Block

namespace Grammar

/-- The grammar for no depth at all. -/
def exhausted : Grammar where
  assignment := throw ⟨0, .unexpectedEnd⟩
  expression := throw ⟨0, .unexpectedEnd⟩
  unary := throw ⟨0, .unexpectedEnd⟩
  leftHandSide := throw ⟨0, .unexpectedEnd⟩
  operators _ _ := throw ⟨0, .unexpectedEnd⟩
  member _ := throw ⟨0, .unexpectedEnd⟩
  accesses _ _ _ := throw ⟨0, .unexpectedEnd⟩
  binding _ := throw ⟨0, .unexpectedEnd⟩
  statement _ _ := throw ⟨0, .unexpectedEnd⟩
  block _ := throw ⟨0, .unexpectedEnd⟩

/-- The grammar for constructs nested up to a depth, from a way to read each construct given the
grammar for what lies inside it. -/
def ofDepth (level : (Unit → Grammar) → Grammar) : Nat → Grammar
  | 0 => exhausted
  | depth + 1 => level fun _ => ofDepth level depth

end Grammar

end LoopGuard
