/-!
# Positions and loop keys

Model of `Position`, `LoopKey` and `position_of`: lines and columns of a source text, and the keys
that name loops. `position_of` takes the line from the line table of `swc_common`, in which a line
ends at a line feed, at a carriage return, or at the two together, and counts the column itself: in
UTF-16 units, from behind the last line feed. A lone carriage return thus begins a line without
setting the column back.

`Position.of` counts both along the text, which is all that is needed for the places of loops.
`Position.lookedUp` keeps the table, and is used for the places of parse errors. The two differ only
at the very end of a text whose last character ends a line. Lines and columns are natural numbers
here and 32-bit numbers in the program, which reads texts shorter than 2 ^ 32 bytes.

Results:
* `linesBefore_zero`, `linesBefore_cons`: how lines are counted along a text.
* `unitsAfterLineFeed_snoc_lineFeed`, `unitsAfterLineFeed_snoc`: how columns are counted along a
  text.
-/

namespace LoopGuard

/-- The number of UTF-16 units of a character: two beyond the basic plane. -/
def utf16Width (c : Char) : Nat := if c.toNat < 0x10000 then 1 else 2

/-- `Position`: a line, from one on, and a column, from zero on. -/
structure Position where
  line : Nat
  column : Nat
  deriving Repr, DecidableEq, Inhabited

namespace Position

/-- A position as keys and messages show it: line and column with a colon between them. -/
def text (p : Position) : String := Nat.repr p.line ++ ":" ++ Nat.repr p.column

/-- The number of line ends in the first `n` characters of a text. A carriage return ends a line
unless a line feed follows it, which then ends the line for both. -/
def linesBefore : List Char → Nat → Nat
  | _, 0 => 0
  | [], _ + 1 => 0
  | c :: rest, n + 1 =>
    (if c = '\n' ∨ (c = '\r' ∧ rest.head? ≠ some '\n') then 1 else 0) + linesBefore rest n

/-- The UTF-16 units behind the last line feed of a text: the column `position_of` finds with the
text before a place. -/
def unitsAfterLineFeed (text : List Char) : Nat :=
  text.foldl (fun units c => if c = '\n' then 0 else units + utf16Width c) 0

/-- `position_of` for the character at `offset`. It counts characters where the program has byte
offsets; both lead to the same position. -/
def of (source : List Char) (offset : Nat) : Position :=
  ⟨1 + linesBefore source offset, unitsAfterLineFeed (source.take offset)⟩

theorem linesBefore_zero (text : List Char) : linesBefore text 0 = 0 := by
  cases text <;> rfl

theorem linesBefore_cons (c : Char) (rest : List Char) (n : Nat) :
    linesBefore (c :: rest) (n + 1) =
      (if c = '\n' ∨ (c = '\r' ∧ rest.head? ≠ some '\n') then 1 else 0) + linesBefore rest n := rfl

theorem unitsAfterLineFeed_snoc_lineFeed (text : List Char) :
    unitsAfterLineFeed (text ++ ['\n']) = 0 := by
  simp [unitsAfterLineFeed]

theorem unitsAfterLineFeed_snoc (text : List Char) {c : Char} (h : c ≠ '\n') :
    unitsAfterLineFeed (text ++ [c]) = unitsAfterLineFeed text + utf16Width c := by
  simp [unitsAfterLineFeed, h]

/-! ## The line table -/

/-- The number of bytes of some text. -/
def bytes : List Char → Nat
  | [] => 0
  | c :: rest => c.utf8Size + bytes rest

/-- The bytes at which lines start, in a text whose first byte is `start`: those behind line
ends. -/
def lineStartsFrom (start : Nat) : List Char → List Nat
  | [] => []
  | c :: rest =>
    let next := start + c.utf8Size
    if c = '\n' ∨ (c = '\r' ∧ rest.head? ≠ some '\n') then next :: lineStartsFrom next rest
    else lineStartsFrom next rest

/-- The table of the bytes at which the lines of a text start. Behind the last character of the text
no line starts. -/
def lineTable (text : List Char) : List Nat :=
  0 :: (lineStartsFrom 0 text).filter (· < bytes text)

/-- `position_of` for any offset, the end of the text included, with its line from the table. A line
end that ends the text starts no line, but columns count from behind it if it is a line feed. -/
def lookedUp (source : List Char) (offset : Nat) : Position where
  line := (lineTable source).countP (· ≤ bytes (source.take offset))
  column := unitsAfterLineFeed (source.take offset)

end Position

/-- `LoopKey`: the name of a loop, made of its file and of the position it has in the code that is
instrumented, never of the position a source map gives. -/
structure LoopKey where
  text : String
  deriving Repr, DecidableEq, Inhabited

namespace LoopKey

/-- `LoopKey.new`: the key of the loop at a position of a file, `file:line:column`. -/
def of (file : String) (generated : Position) : LoopKey := ⟨file ++ ":" ++ generated.text⟩

end LoopKey

end LoopGuard
