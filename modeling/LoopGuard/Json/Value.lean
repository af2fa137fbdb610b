import LoopGuard.Json.Quote
import LoopGuard.Text.Shortest

/-!
# JSON values

The values of `serde_json` as a tree, and their compact text. Numbers are natural, negative, or
binary fractions; which of them a number is depends on how it is written, so `1` and `1.0` differ.
Objects keep the order of their members.

Results:
* `Value.encode_string`: the text of a string is its quoted form.
-/

namespace LoopGuard

namespace Json

/-- A number of one of three kinds. The first two are exact. -/
inductive Number where
  | natural (n : Nat)
  /-- The number `-n`. -/
  | negative (n : Nat)
  /-- A number with a fraction or an exponent, or one that is out of the range of words. -/
  | float (isNegative : Bool) (size : Binary64)
  deriving Repr, DecidableEq, Inhabited

/-- The digits with a point behind the first of them, if there are others. -/
def leadingPoint (digits : List Char) : List Char :=
  match digits with
  | [] => []
  | [d] => [d]
  | d :: rest => d :: '.' :: rest

/-- A decimal with a point, or with an exponent if it is very great or very small. -/
def fractionText (d : Decimal) : String :=
  let d := d.trim 400
  let digits := (Nat.repr d.digits).toList
  let point : Int := digits.length + d.exponent
  if d.digits == 0 then "0.0"
  else if d.exponent ≥ 0 ∧ point ≤ 16 then d.positional ++ ".0"
  else if d.exponent < 0 ∧ -5 < point ∧ point ≤ 16 then d.positional
  else String.ofList (leadingPoint digits) ++ "e" ++ Int.repr (point - 1)

/-- The text of a number. -/
def Number.text : Number → String
  | natural n => Nat.repr n
  | negative n => "-" ++ Nat.repr n
  | float isNegative size =>
    (if isNegative then "-" else "") ++ fractionText (Decimal.shortest size)

/-- `Value`: a value of any kind. -/
inductive Value where
  | null
  | boolean (b : Bool)
  | number (n : Number)
  | string (s : String)
  | array (items : List Value)
  | object (members : List (String × Value))
  deriving Inhabited

namespace Value

/-- A natural number. -/
def ofNat (n : Nat) : Value := number (.natural n)

mutual

/-- The text of a value, without spaces, as `to_string` and `to_writer` have it. -/
def encode : Value → String
  | null => "null"
  | boolean b => if b then "true" else "false"
  | number n => n.text
  | string s => quote s
  | array items => "[" ++ encodeItems items ++ "]"
  | object members => "\x7b" ++ encodeMembers members ++ "\x7d"

/-- The texts of values, separated by commas. -/
def encodeItems : List Value → String
  | [] => ""
  | [v] => encode v
  | v :: rest => encode v ++ "," ++ encodeItems rest

/-- The texts of members, separated by commas. -/
def encodeMembers : List (String × Value) → String
  | [] => ""
  | [(key, v)] => quote key ++ ":" ++ encode v
  | (key, v) :: rest => quote key ++ ":" ++ encode v ++ "," ++ encodeMembers rest

end

theorem encode_string (s : String) : (string s).encode = quote s := by
  simp [encode]

/-- The value of the first member with this key. -/
def get? (key : String) : Value → Option Value
  | object members => (members.find? (·.1 == key)).map (·.2)
  | _ => none

end Value

end Json

end LoopGuard
