import LoopGuard.Syntax.Context
import LoopGuard.Syntax.Fault
import LoopGuard.Text.NumberText

/-!
# Tokens

The words, marks and literals a source text is made of, as `swc_ecma_parser` tells them apart. A
token that could not be read to its end is a token too, with its fault: the parser decides whether
that fault, another one or none comes of it.
-/

namespace LoopGuard

/-- A token, without its place. Which words are keywords depends on the reader. -/
inductive Token where
  /-- A name or keyword, with its escapes resolved. -/
  | word (text : String)
  /-- A name that starts with an escape, with its escapes resolved. It is never a keyword. -/
  | escapedName (text : String)
  /-- An operator or another mark. -/
  | mark (text : String)
  | number (raw : String)
  | bigint (raw : String)
  | string (value raw : String)
  /-- A stretch of template text, and what an untagged template cannot contain, if it does. -/
  | chunk (raw : String) (flaw : Option Diagnostic)
  | regex (body flags : String)
  | shebang (text : String)
  /-- What could not be read as a token, and where the flaw ends. -/
  | flawed (flaw : Diagnostic) (stop : Nat)
  deriving Repr, DecidableEq, Inhabited

namespace Token

/-- Operators that stand between two operands. -/
def binaryOperators : List String :=
  ["+", "-", "*", "/", "%", "**", "==", "!=", "===", "!==", "<", "<=", ">", ">=", "<<", ">>", ">>>",
   "&", "|", "^", "&&", "||", "??"]

/-- Operators that assign. -/
def assignOperators : List String :=
  ["=", "+=", "-=", "*=", "/=", "%=", "**=", "<<=", ">>=", ">>>=", "&=", "|=", "^=", "&&=", "||=",
   "??="]

/-- Whether the token is an operator between two operands, words apart. -/
def isBinaryOperator : Token → Bool
  | mark m => binaryOperators.contains m
  | _ => false

/-- The text of a name or keyword. -/
def wordText? : Token → Option String
  | word w | escapedName w => some w
  | _ => none

/-- How a message shows the token, given the number of the first byte of an offset. -/
def shown (byteNumber : Nat → Nat) : Token → String
  | word w | escapedName w => w
  | mark m => m
  | number raw => "numeric literal (" ++ NumberText.plain raw ++ ", " ++ raw ++ ")"
  | bigint raw => "bigint literal (" ++ NumberText.integer raw ++ ", " ++ raw ++ ")"
  | string value raw => "string literal (" ++ value ++ ", " ++ raw ++ ")"
  | chunk raw _ => "template token (" ++ raw ++ ")"
  | regex body flags => "regexp literal (" ++ body ++ ", " ++ flags ++ ")"
  | shebang text => "#!" ++ text
  | flawed d stop =>
    "<lexing error: Error \x7b error: (" ++ Nat.repr (byteNumber d.offset) ++ ".."
      ++ Nat.repr (byteNumber stop) ++ ", " ++ d.fault.inspected ++ ") \x7d>"

/-- Whether a line comment on the same line belongs to the token before it. -/
def ownsLineComment (t : Token) : Bool := !t.isBinaryOperator

/-- Whether a block comment on the same line belongs to the token before it. -/
def ownsBlockComment : Token → Bool
  | word w => Word.isPlain w
  | mark m => ["\x7b", "\x7d", ";", "$\x7b"].contains m
  | escapedName _ | number _ | bigint _ | string _ _ | regex _ _ => true
  | _ => false

/-- Whether the token, behind `yield`, starts its operand. -/
def startsExpression : Token → Bool
  | word w =>
    Word.isPlain w || Word.literals.contains w
      || ["await", "class", "delete", "function", "import", "let", "new", "super", "this", "typeof",
          "throw", "void", "yield"].contains w
  | mark m => ["!", "(", "[", "\x7b", "`", "~", "++", "--", "+", "-", "/", "/="].contains m
  | escapedName _ | number _ | bigint _ | string _ _ | regex _ _ => true
  | chunk _ _ | shebang _ | flawed _ _ => false

/-- Whether the token, behind `let`, makes it the start of a declaration. -/
def followsLet : Token → Bool
  | word w => Word.isPlain w || w == "let" || w == "yield" || w == "await"
  | escapedName _ => true
  | mark m => m == "\x7b" || m == "["
  | _ => false

end Token

/-- A token at its place, with whether a line break stands in front of it. -/
structure PlacedToken where
  token : Token
  lo : Nat
  hi : Nat
  afterLineBreak : Bool
  deriving Repr, DecidableEq, Inhabited

end LoopGuard
