import LoopGuard.Json.NumberReader

/-!
# Reading values

The deserializer of `serde_json` for values of any kind, values of an expected kind, and values that
are skipped (`IgnoredAny`). What a reader of an expected kind says about a value of another kind
names that value. Containers may be nested up to a fixed depth; skipping knows no such bound.

Loops over elements and members get as many steps as the text has characters, and one more. Each
step takes a character, so the steps never run out before the text does.
-/

namespace LoopGuard

namespace Json

namespace Reader

/-! ## Containers -/

/-- Whether another element follows, and the comma in front of it. -/
def moreItems (isFirst : Bool) : Reader Bool := do
  match ← token with
  | none => failNext .endInArray
  | some ']' => return false
  | some c =>
    if isFirst then return true
    else if c == ',' then
      drop
      match ← token with
      | none => failNext .endInValue
      | some ']' => failNext .trailingComma
      | some _ => return true
    else failNext .expectedArrayCommaOrEnd

/-- Whether another member follows, and the comma in front of it. -/
def moreMembers (isFirst : Bool) : Reader Bool := do
  match ← token with
  | none => failNext .endInObject
  | some '\x7d' => return false
  | some c =>
    if isFirst then
      if c == '"' then return true else failNext .keyNotString
    else if c == ',' then
      drop
      match ← token with
      | none => failNext .endInValue
      | some '"' => return true
      | some '\x7d' => failNext .trailingComma
      | some _ => failNext .keyNotString
    else failNext .expectedObjectCommaOrEnd

/-- Takes the colon behind a key. -/
def colon : Reader Unit := do
  match ← token with
  | none => failNext .endInObject
  | some ':' => drop
  | some _ => failNext .expectedColon

/-- Takes a bracket that ends an array. -/
def endArray : Reader Unit := do
  match ← token with
  | none => failNext .endInArray
  | some ']' => drop
  | some ',' =>
    drop
    let next ← token
    failNext (if next == some ']' then .trailingComma else .trailingCharacters)
  | some _ => failNext .trailingCharacters

/-- Takes a brace that ends an object. -/
def endObject : Reader Unit := do
  match ← token with
  | none => failNext .endInObject
  | some '\x7d' => drop
  | some ',' => failNext .trailingComma
  | some _ => failNext .trailingCharacters

/-- The elements of an array, each read by `item`. -/
def items (item : Reader α) : Nat → Bool → Reader (List α)
  | 0, _ => return []
  | fuel + 1, isFirst => do
    if ← moreItems isFirst then
      let a ← item
      return a :: (← items item fuel false)
    else return []

/-- The members of an object; what stands behind a key is read by `member`, which updates a
state. -/
def members (member : String → σ → Reader σ) : Nat → Bool → σ → Reader σ
  | 0, _, s => return s
  | fuel + 1, isFirst, s => do
    if ← moreMembers isFirst then
      drop
      let key ← stringBody
      members member fuel false (← member key s)
    else return s

/-- More steps than a text of this length can need. -/
def fuelHere : Reader Nat := return (← get).rest.length + 1

/-- The elements of an array whose bracket has been taken, and its end. -/
def arrayBody (body : Reader α) : Reader α := closedBy body endArray

/-- The members of an object whose brace has been taken, and its end. -/
def objectBody (body : Reader α) : Reader α := closedBy body endObject

/-! ## Any value -/

/-- `parse_value` for any kind: a value that may hold values read by `inner`; without `inner` it
must not be a container. -/
def valueOver (inner : Option (Reader Value)) : Reader Value := do
  match ← token with
  | none => failNext .endInValue
  | some 'n' =>
    word ['n', 'u', 'l', 'l']
    return .null
  | some 't' =>
    word ['t', 'r', 'u', 'e']
    return .boolean true
  | some 'f' =>
    word ['f', 'a', 'l', 's', 'e']
    return .boolean false
  | some '-' =>
    drop
    return .number (← number true)
  | some '"' =>
    drop
    return .string (← stringBody)
  | some '[' =>
    match inner with
    | none => failNext .tooDeep
    | some inner =>
      drop
      return .array (← arrayBody do items inner (← fuelHere) true)
  | some '\x7b' =>
    match inner with
    | none => failNext .tooDeep
    | some inner =>
      drop
      let member (key : String) (seen : List (String × Value)) :
          Reader (List (String × Value)) := do
        colon
        return (key, ← inner) :: seen
      return .object (← objectBody do members member (← fuelHere) true []).reverse
  | some c => if c.isDigit then return .number (← number false) else failNext .expectedValue

/-- A value with at most `depth` containers inside each other. -/
def value : Nat → Reader Value
  | 0 => valueOver none
  | depth + 1 => valueOver (some (value depth))

/-! ## Values of an expected kind -/

/-- `peek_invalid_type`: fails because the next value is not of the kind that is expected. The value
is read if it is no container. -/
def unexpected (expected : String) : Reader α := do
  match ← peek with
  | some '[' => failValue (.invalidType .array expected)
  | some '\x7b' => failValue (.invalidType .object expected)
  | _ =>
    let v ← valueOver none
    failValue (.invalidType (.ofValue v) expected)

/-- A string. -/
def text : Reader String := placed do
  match ← token with
  | none => failNext .endInValue
  | some '"' =>
    drop
    stringBody
  | some _ => unexpected "a string"

/-- A natural number of at most `bits` bits, of a kind called `name`. -/
def natural (bits : Nat) (name : String) : Reader Nat := placed do
  match ← token with
  | none => failNext .endInValue
  | some c =>
    if c == '-' then
      drop
      check (← number true)
    else if c.isDigit then check (← number false)
    else unexpected name
where
  /-- Whether a number that has been read will do. -/
  check : Number → Reader Nat
    | .natural n =>
      if n < 1 <<< bits then return n else failValue (.invalidValue (.number (.natural n)) name)
    | .negative n => failValue (.invalidValue (.number (.negative n)) name)
    | .float isNegative size => failValue (.invalidType (.number (.float isNegative size)) name)

/-- Nothing for `null`, else a value read by `r`. -/
def optional (r : Reader α) : Reader (Option α) := do
  match ← token with
  | some 'n' =>
    word ['n', 'u', 'l', 'l']
    return none
  | _ => return some (← r)

/-- An array of values read by `item`, where `depth` containers may still be opened. -/
def array (depth : Nat) (item : Reader α) : Reader (List α) := placed do
  match ← token with
  | none => failNext .endInValue
  | some '[' =>
    if depth == 0 then failNext .tooDeep
    else
      drop
      arrayBody do items item (← fuelHere) true
  | some _ => unexpected "a sequence"

/-! ## Skipping -/

/-- A container that is being skipped. -/
inductive Bracket where
  | array
  | object
  deriving DecidableEq

/-- What comes next when values are skipped. -/
inductive SkipState where
  | value
  /-- The first element of the innermost container, or its end. -/
  | first
  /-- What follows an element of the innermost container. -/
  | more

/-- Skips a key and its colon. -/
def skipKey : Reader Unit := do
  match ← token with
  | none => failNext .endInObject
  | some '"' =>
    drop
    skipString
    colon
  | some _ => failNext .keyNotString

/-- Skips digits of which at least one has to be there. -/
def skipDigits : Reader Unit := do
  if ← atDigit then skipWhile Char.isDigit else failNext .invalidNumber

/-- Skips an exponent, if there is one. -/
def skipExponent : Reader Unit := do
  let c ← peek
  if c == some 'e' || c == some 'E' then
    drop
    let sign ← peek
    if sign == some '+' || sign == some '-' then drop
    skipDigits

/-- Skips a number behind its sign. -/
def skipNumber : Reader Unit := do
  match ← peek with
  | some '0' =>
    drop
    if ← atDigit then failNext .invalidNumber
  | _ => skipDigits
  if (← peek) == some '.' then
    drop
    skipDigits
  skipExponent

/-- The container that a bracket opens. -/
def opened? : Char → Option Bracket
  | '[' => some .array
  | '\x7b' => some .object
  | _ => none

/-- Skips a value that is no container. -/
def skipScalar : Reader Unit := do
  match ← peek with
  | some 'n' => word ['n', 'u', 'l', 'l']
  | some 't' => word ['t', 'r', 'u', 'e']
  | some 'f' => word ['f', 'a', 'l', 's', 'e']
  | some '-' =>
    drop
    skipNumber
  | some '"' =>
    drop
    skipString
  | some c => if c.isDigit then skipNumber else failNext .expectedValue
  | none => failNext .endInValue

/-- Whether a character ends the container. -/
def closes (b : Bracket) (c : Char) : Bool :=
  match b with
  | .array => c == ']'
  | .object => c == '\x7d'

/-- Skips what is left of a value, given the containers that are open. -/
def skipFrom : Nat → SkipState → List Bracket → Reader Unit
  | 0, _, _ => pure ()
  | fuel + 1, .value, outer => do
    match (← token).bind opened? with
    | some b =>
      drop
      skipFrom fuel .first (b :: outer)
    | none =>
      skipScalar
      skipFrom fuel .more outer
  | _ + 1, _, [] => pure ()
  | fuel + 1, .first, b :: outer => do
    match ← token with
    | none => failNext (if b == .array then .endInArray else .endInObject)
    | some c =>
      if closes b c then
        drop
        skipFrom fuel .more outer
      else
        if b == .object then skipKey
        skipFrom fuel .value (b :: outer)
  | fuel + 1, .more, b :: outer => do
    match ← token with
    | none => failNext (if b == .array then .endInArray else .endInObject)
    | some c =>
      if closes b c then
        drop
        skipFrom fuel .more outer
      else if c == ',' then
        drop
        if b == .object then skipKey
        skipFrom fuel .value (b :: outer)
      else failNext (if b == .array then .expectedArrayCommaOrEnd else .expectedObjectCommaOrEnd)

/-- `ignore_value`: skips a value without a bound on its depth. -/
def skip : Reader Unit := do skipFrom (3 * (← get).rest.length + 3) .value []

end Reader

/-- How many containers may be inside each other. -/
def depthLimit : Nat := 127

/-- What a reader makes of a whole text, behind which only spaces may stand: `from_slice` and
`from_str`. -/
def read (r : Reader α) (text : String) : Except Error α :=
  let whole : Reader α := do
    let a ← r
    match ← Reader.token with
    | none => return a
    | some _ => Reader.failNext .trailingCharacters
  (whole.runAt ⟨text.toList, 0⟩).1

/-- The value of a text. -/
def Value.ofText (text : String) : Except Error Value := read (Reader.value depthLimit) text

end Json

end LoopGuard
