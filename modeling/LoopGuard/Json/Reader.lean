import LoopGuard.Json.Fault

/-!
# Reading JSON text

The reader of `serde_json` for a text in memory, up to strings. A reader takes characters from the
front of a text and says what it read or why it cannot go on. It keeps its place also when it fails,
because a container is closed before the fault of what it holds is placed.

Two things are told apart that look alike: a fault is placed at the present byte (`peek_error`) or
behind the one just taken (`error`), and a fault of a whole value has no place until the value has
been left. Places are counted in bytes, as messages have them.
-/

namespace LoopGuard

namespace Json

/-- A place in a text: what follows, and how many bytes are in front. Characters are taken whole, so
a place never lies inside one. -/
structure Cursor where
  rest : List Char
  offset : Nat
  deriving Repr, DecidableEq, Inhabited

/-- A step of reading: a value or a fault, and the place reached in either case. -/
abbrev Reader (α : Type) := ExceptT Error (StateM Cursor) α

namespace Reader

/-- What a reader makes of a cursor. -/
def runAt (r : Reader α) (c : Cursor) : Except Error α × Cursor := (ExceptT.run r).run c

/-- The next character, which stays. -/
def peek : Reader (Option Char) := return (← get).rest.head?

/-- The next character, which is taken. -/
def take : Reader (Option Char) := do
  let c ← get
  match c.rest with
  | [] => return none
  | x :: rest =>
    set (Cursor.mk rest (c.offset + x.utf8Size))
    return some x

/-- Takes the next character. -/
def drop : Reader Unit := do
  let _ ← take

/-- `error`: fails at the present place, behind what was taken. -/
def failHere (f : Fault) : Reader α := do throw ⟨f, some (← get).offset⟩

/-- `peek_error`: fails a byte further on, or at the end. -/
def failNext (f : Fault) : Reader α := do
  let c ← get
  throw ⟨f, some (if c.rest.isEmpty then c.offset else c.offset + 1)⟩

/-- Fails without a place. -/
def failValue (f : Fault) : Reader α := throw ⟨f, none⟩

/-- Gives a failure of the reader the place where the reader stopped, if it has none
(`fix_position`). -/
def placed (r : Reader α) : Reader α := fun c =>
  match r.runAt c with
  | (.error ⟨f, none⟩, c) => (.error ⟨f, some c.offset⟩, c)
  | outcome => outcome

/-- Runs `r` and then `close`, also when `r` fails, and fails as the first of them that does. -/
def closedBy (r : Reader α) (close : Reader Unit) : Reader α := fun c =>
  match r.runAt c with
  | (.ok a, c) =>
    match close.runAt c with
    | (.ok _, c) => (.ok a, c)
    | (.error e, c) => (.error e, c)
  | (.error e, c) => (.error e, (close.runAt c).2)

/-- Whether a character stands between tokens. -/
def isSpace (c : Char) : Bool := c == ' ' || c == '\n' || c == '\t' || c == '\r'

/-- Skips the characters at the front that satisfy `p`, all of them one byte long. -/
def skipWhile (p : Char → Bool) : Reader Unit :=
  modify fun c =>
    ⟨c.rest.dropWhile p, c.offset + (c.rest.takeWhile p).length⟩

/-- The first character behind the spaces, which stays. -/
def token : Reader (Option Char) := do
  skipWhile isSpace
  peek

/-- Takes the characters of a word. -/
def word : List Char → Reader Unit
  | [] => pure ()
  | expected :: rest => do
    match ← peek with
    | none => failHere .endInValue
    | some c =>
      if c == expected then
        drop
        word rest
      else failNext .expectedWord

/-! ## Strings -/

/-- The value of a hexadecimal digit. -/
def hexValue? (c : Char) : Option Nat :=
  if '0' ≤ c ∧ c ≤ '9' then some (c.toNat - '0'.toNat)
  else if 'a' ≤ c ∧ c ≤ 'f' then some (c.toNat - 'a'.toNat + 10)
  else if 'A' ≤ c ∧ c ≤ 'F' then some (c.toNat - 'A'.toNat + 10)
  else none

/-- Drops the characters that lie in the first `bytes` bytes, wholly or in part. -/
def dropBytes : Nat → List Char → List Char
  | 0, cs => cs
  | _ + 1, [] => []
  | bytes + 1, c :: rest => dropBytes (bytes + 1 - c.utf8Size) rest
termination_by _ cs => cs.length

/-- The number of bytes of a text. -/
def byteLength (cs : List Char) : Nat := cs.foldl (fun n c => n + c.utf8Size) 0

/-- The number that four hexadecimal digits denote. -/
def fourHex : Reader Nat := do
  let c ← get
  match c.rest with
  | a :: b :: d :: e :: rest =>
    match hexValue? a, hexValue? b, hexValue? d, hexValue? e with
    | some a, some b, some d, some e =>
      set (Cursor.mk rest (c.offset + 4))
      return ((a * 16 + b) * 16 + d) * 16 + e
    | _, _, _, _ => malformed c
  | _ => malformed c
where
  /-- Fails behind four bytes, or at the end of a text that has fewer. -/
  malformed (c : Cursor) : Reader Nat := do
    let size := byteLength c.rest
    if size < 4 then
      set (Cursor.mk [] (c.offset + size))
      failHere .endInString
    else
      set (Cursor.mk (dropBytes 4 c.rest) (c.offset + 4))
      failHere .invalidEscape

/-- Takes `expected`, or fails for a pair of escapes that breaks off. -/
def secondHalf (expected : Char) : Reader Unit := do
  match ← peek with
  | none => failHere .endInString
  | some c =>
    if c == expected then drop
    else failNext .endOfEscape

/-- What is meant by a backslash, the letter u, four digits, and perhaps a second such escape. -/
def unicodeEscape : Reader Char := do
  let first ← fourHex
  if 0xDC00 ≤ first ∧ first ≤ 0xDFFF then failHere .loneSurrogate
  else if first < 0xD800 ∨ 0xDBFF < first then return Char.ofNat first
  else
    secondHalf '\\'
    secondHalf 'u'
    let second ← fourHex
    if second < 0xDC00 ∨ 0xDFFF < second then failHere .loneSurrogate
    else return Char.ofNat (0x10000 + (first - 0xD800) * 0x400 + (second - 0xDC00))

/-- The character that a letter behind a backslash stands for. -/
def shortEscape? (c : Char) : Option Char :=
  match c with
  | '"' => some '"'
  | '\\' => some '\\'
  | '/' => some '/'
  | 'b' => some '\x08'
  | 'f' => some '\x0c'
  | 'n' => some '\n'
  | 'r' => some '\r'
  | 't' => some '\t'
  | _ => none

/-- What is meant by an escape whose backslash has been taken. -/
def escape : Reader Char := do
  match ← peek with
  | none => failHere .endInString
  | some 'u' =>
    drop
    unicodeEscape
  | some c =>
    match shortEscape? c with
    | some c =>
      drop
      return c
    | none => failNext .invalidEscape

/-- The characters of a string whose opening quote has been taken, and of which `seen` has been
read, last one first. -/
def stringFrom : Nat → List Char → Reader String
  | 0, _ => failHere .endInString
  | fuel + 1, seen => do
    match ← take with
    | none => failHere .endInString
    | some '"' => return String.ofList seen.reverse
    | some '\\' => stringFrom fuel ((← escape) :: seen)
    | some c => if c.toNat < 0x20 then failHere .controlCharacter else stringFrom fuel (c :: seen)

/-- `parse_str`: a string whose opening quote has been taken, with its escapes resolved. -/
def stringBody : Reader String := do stringFrom ((← get).rest.length + 1) []

/-- Skips a string whose opening quote has been taken. What its escapes denote does not matter, so a
half of a pair is no fault here. -/
def skipStringFrom : Nat → Reader Unit
  | 0 => failHere .endInString
  | fuel + 1 => do
    match ← peek with
    | none => failHere .endInString
    | some '"' => drop
    | some '\\' =>
      drop
      match ← peek with
      | none => failHere .endInString
      | some 'u' =>
        drop
        let _ ← fourHex
        skipStringFrom fuel
      | some c =>
        if (shortEscape? c).isSome then
          drop
          skipStringFrom fuel
        else failNext .invalidEscape
    | some c =>
      if c.toNat < 0x20 then failHere .controlCharacter
      else
        drop
        skipStringFrom fuel

/-- Skips a string whose opening quote has been taken. -/
def skipString : Reader Unit := do skipStringFrom ((← get).rest.length + 1)

end Reader

end Json

end LoopGuard
