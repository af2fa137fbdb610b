import LoopGuard.Json.Value
import LoopGuard.Text.Quoted

/-!
# Why a JSON text is refused

The errors of `serde_json` with their messages: faults of the text itself, and faults of a value
that is not of the kind that was asked for. A fault belongs to a place of the text, told here by the
number of bytes in front of it and in a message by line and column. Errors of reading a file, and of
kinds of values that no type of the program asks for, are left out.
-/

namespace LoopGuard

namespace Json

/-- What stands where something else was expected. -/
inductive Found where
  | null
  | boolean (b : Bool)
  | number (n : Number)
  | string (s : String)
  | array
  | object
  deriving Repr, DecidableEq, Inhabited

/-- A description of what was found, as the error of a wrong type or value shows it. -/
def Found.text : Found → String
  | null => "null"
  | boolean b => "boolean `" ++ (if b then "true" else "false") ++ "`"
  | number (.float isNegative size) =>
    "floating point `" ++ Number.text (.float isNegative size) ++ "`"
  | number n => "integer `" ++ n.text ++ "`"
  | string s => "string " ++ Quoted.quoted s
  | array => "sequence"
  | object => "map"

/-- What was found, told from a value. -/
def Found.ofValue : Value → Found
  | .null => null
  | .boolean b => boolean b
  | .number n => number n
  | .string s => string s
  | .array _ => array
  | .object _ => object

/-- Why a text is refused: a fault of its form, or of what it says. -/
inductive Fault where
  | endInArray
  | endInObject
  | endInString
  | endInValue
  | expectedColon
  | expectedArrayCommaOrEnd
  | expectedObjectCommaOrEnd
  | expectedWord
  | expectedValue
  | invalidEscape
  | invalidNumber
  | numberOutOfRange
  | controlCharacter
  | keyNotString
  | loneSurrogate
  | endOfEscape
  | trailingComma
  | trailingCharacters
  | tooDeep
  /-- A value of another kind than expected. -/
  | invalidType (found : Found) (expected : String)
  /-- A value of the expected kind that is out of range. -/
  | invalidValue (found : Found) (expected : String)
  /-- An array with too few elements. -/
  | invalidLength (length : Nat) (expected : String)
  | missingField (name : String)
  | duplicateField (name : String)
  deriving Repr, DecidableEq, Inhabited

/-- The message of a fault, without its place. -/
def Fault.text : Fault → String
  | endInArray => "EOF while parsing a list"
  | endInObject => "EOF while parsing an object"
  | endInString => "EOF while parsing a string"
  | endInValue => "EOF while parsing a value"
  | expectedColon => "expected `:`"
  | expectedArrayCommaOrEnd => "expected `,` or `]`"
  | expectedObjectCommaOrEnd => "expected `,` or `\x7d`"
  | expectedWord => "expected ident"
  | expectedValue => "expected value"
  | invalidEscape => "invalid escape"
  | invalidNumber => "invalid number"
  | numberOutOfRange => "number out of range"
  | controlCharacter => "control character (\\u0000-\\u001F) found while parsing a string"
  | keyNotString => "key must be a string"
  | loneSurrogate => "lone leading surrogate in hex escape"
  | endOfEscape => "unexpected end of hex escape"
  | trailingComma => "trailing comma"
  | trailingCharacters => "trailing characters"
  | tooDeep => "recursion limit exceeded"
  | invalidType found expected => "invalid type: " ++ found.text ++ ", expected " ++ expected
  | invalidValue found expected => "invalid value: " ++ found.text ++ ", expected " ++ expected
  | invalidLength length expected =>
    "invalid length " ++ Nat.repr length ++ ", expected " ++ expected
  | missingField name => "missing field `" ++ name ++ "`"
  | duplicateField name => "duplicate field `" ++ name ++ "`"

/-- A fault, and how many bytes of the text stand in front of it. A fault of a whole value gets its
place when the value has been left. -/
structure Error where
  fault : Fault
  offset : Option Nat
  deriving Repr, DecidableEq, Inhabited

/-- The line at a byte offset, from one on, and the bytes between its start and the offset. -/
def lineAndColumn (text : List Char) (offset : Nat) : Nat × Nat :=
  go text 0 1 0
where
  /-- Goes on behind `passed` bytes, at line `line`, which starts behind `start` bytes. -/
  go : List Char → Nat → Nat → Nat → Nat × Nat
    | [], _, line, start => (line, offset - start)
    | c :: rest, passed, line, start =>
      if passed ≥ offset then (line, offset - start)
      else if c = '\n' then go rest (passed + 1) (line + 1) (passed + 1)
      else go rest (passed + c.utf8Size) line start

/-- The message of an error of a text: the fault, and the line and column of its place. -/
def Error.message (text : String) (e : Error) : String :=
  match e.offset with
  | none => e.fault.text
  | some offset =>
    let (line, column) := lineAndColumn text.toList offset
    e.fault.text ++ " at line " ++ Nat.repr line ++ " column " ++ Nat.repr column

end Json

end LoopGuard
