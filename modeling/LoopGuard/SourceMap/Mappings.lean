import LoopGuard.SourceMap.Basic
import LoopGuard.SourceMap.Digits

/-!
# The text of mappings

The tokens of a source map are written line by line, each as the differences to the token before it:
the column on its line, and if it comes from a source, the source, its line and column, and the
name. A second text marks the range tokens of each line by their numbers.

This is the part of `sourcemap` between a text of mappings and the list of tokens. Running numbers
are sums of 64 bits cut to 32, so a source, line or column can wrap around on the way and come back.
-/

namespace LoopGuard

namespace Mappings

/-- The parts of a text between separators; one more than it has separators. -/
def splitOn (separator : Char) : List Char → List (List Char)
  | [] => [[]]
  | c :: rest =>
    match splitOn separator rest with
    | [] => [[c]]
    | part :: parts => if c = separator then [] :: part :: parts else (c :: part) :: parts

/-- A number of 32 bits moved by a difference; it wraps around. -/
def moved (n : Nat) (d : Int) : Nat := ((n + d) % UInt32.size).toNat

/-! ## Reading -/

/-- What the next segment's differences are relative to, apart from the column. -/
structure Base where
  source : Nat := 0
  sourceLine : Nat := 0
  sourceColumn : Nat := 0
  name : Nat := 0
  deriving Repr, DecidableEq, Inhabited

/-- How many sources and names there are to refer to. -/
structure Counts where
  sources : Nat
  names : Nat
  deriving Repr, DecidableEq, Inhabited

/-- The source that a segment's differences lead to. -/
def sourceAt (counts : Counts) (base : Base) (d : Int) : Except MapFault Nat :=
  let source := moved base.source d
  if source < counts.sources then .ok source else .error (.badSource source)

/-- The name that a segment's differences lead to. -/
def nameAt (counts : Counts) (base : Base) (d : Int) : Except MapFault Nat :=
  let name := moved base.name d
  if name < counts.names then .ok name else .error (.badName name)

/-- The token of a segment at a column, and what the next one is relative to. -/
def tokenOf (counts : Counts) (base : Base) (line column : Nat) (isRange : Bool) :
    List Int → Except MapFault (MapToken × Base)
  | [] => .ok (⟨line, column, none, base.sourceLine, base.sourceColumn, none, isRange⟩, base)
  | [d, dl, dc] => do
    let source ← sourceAt counts base d
    let base :=
      { base with
        source, sourceLine := moved base.sourceLine dl, sourceColumn := moved base.sourceColumn dc }
    return (⟨line, column, some source, base.sourceLine, base.sourceColumn, none, isRange⟩, base)
  | [d, dl, dc, dn] => do
    let source ← sourceAt counts base d
    let name ← nameAt counts base dn
    let base : Base := ⟨source, moved base.sourceLine dl, moved base.sourceColumn dc, name⟩
    return (⟨line, column, some source, base.sourceLine, base.sourceColumn, some name, isRange⟩,
      base)
  | ds => .error (.segmentSize (ds.length + 1))

/-- The tokens of the segments of a line, and what the next line is relative to. Segments that are
empty still count for the range marks. -/
def lineTokens (counts : Counts) (line : Nat) :
    Nat → Base → List Bool → List (List Char) → Except MapFault (List MapToken × Base)
  | _, base, _, [] => .ok ([], base)
  | column, base, marks, segment :: rest =>
    if segment.isEmpty then lineTokens counts line column base marks.tail rest
    else do
      let ds ← Digits.numbers segment
      let column := moved column (ds.headD 0)
      let (t, base) ← tokenOf counts base line column (marks.headD false) ds.tail
      let (ts, base) ← lineTokens counts line column base marks.tail rest
      return (t :: ts, base)

/-- The six marks of a character. -/
def rangeMarks (c : Char) : Except MapFault (List Bool) :=
  match Digits.digit? c with
  | some d => .ok ((List.range 6).map fun i => (d >>> i) % 2 == 1)
  | none => .error (.badRangeCharacter (firstByte c))
where
  /-- The first byte of a character, as a character of its own. -/
  firstByte (c : Char) : Char := Char.ofNat ((String.utf8EncodeChar c).headD 0).toNat

/-- The tokens of the lines from number `line` on. -/
def linesTokens (counts : Counts) : Nat → Base → List (List Char) → List (List Char) →
    Except MapFault (List MapToken)
  | _, _, _, [] => .ok []
  | line, base, ranges, text :: rest =>
    if text.isEmpty then linesTokens counts (line + 1) base ranges.tail rest
    else do
      let marks ← (ranges.headD []).mapM rangeMarks
      let (ts, base) ← lineTokens counts line 0 base marks.flatten (splitOn ',' text)
      return ts ++ (← linesTokens counts (line + 1) base ranges.tail rest)

/-- The tokens of a text of mappings and a text of range marks, in the order they are written. -/
def decode (counts : Counts) (mappings ranges : String) : Except MapFault (List MapToken) :=
  linesTokens counts 0 {} (splitOn ';' ranges.toList) (splitOn ';' mappings.toList)

/-! ## Writing -/

/-- What is written for a token behind a column and what `base` stands for, and what comes after it
is relative to. -/
def segmentOf (column : Nat) (base : Base) (t : MapToken) : List Char × Base :=
  let front := Digits.encode ((t.column : Int) - column)
  match t.source with
  | none => (front, base)
  | some source =>
    let place := Digits.encode ((source : Int) - base.source)
      ++ Digits.encode ((t.sourceLine : Int) - base.sourceLine)
      ++ Digits.encode ((t.sourceColumn : Int) - base.sourceColumn)
    match t.name with
    | none => (front ++ place, ⟨source, t.sourceLine, t.sourceColumn, base.name⟩)
    | some name =>
      (front ++ place ++ Digits.encode ((name : Int) - base.name),
        ⟨source, t.sourceLine, t.sourceColumn, name⟩)

/-- The text of tokens behind the token `last`, if there is one. A token that equals the one before
it is left out. -/
def encodeFrom (line column : Nat) (base : Base) (last : Option MapToken) :
    List MapToken → List Char
  | [] => []
  | t :: rest =>
    if t.line == line then
      if last == some t then encodeFrom line column base last rest
      else
        let (segment, base) := segmentOf column base t
        (if last.isSome then [','] else []) ++ segment ++
          encodeFrom line t.column base (some t) rest
    else
      let (segment, base) := segmentOf 0 base t
      List.replicate (t.line - line) ';' ++ segment ++ encodeFrom t.line t.column base (some t) rest

/-- The text of tokens. -/
def encode (ts : List MapToken) : String := String.ofList (encodeFrom 0 0 {} none ts)

/-- The text of a set of numbers, given as marks: six to a character, without the unset ones at the
end. -/
def encodeMarks : Nat → List Nat → List Char
  | 0, _ => []
  | fuel + 1, indices =>
    if indices.isEmpty then []
    else
      let digit := ((List.range 6).filter indices.contains).foldl (fun d i => d + 1 <<< i) 0
      Digits.char digit :: encodeMarks fuel ((indices.filter (6 ≤ ·)).map (· - 6))

/-- The text of the range marks of tokens, of which `index` come before and `first` of these lie in
front of the present line. The marks `pending` are written when a token of another line is met; the
mark of that token is among them. -/
def encodeRangesFrom (line index first : Nat) (pending : List Nat) : List MapToken → List Char
  | [] => flushed pending
  | t :: rest =>
    let pending := if t.isRange then pending ++ [index - first] else pending
    if t.line == line then encodeRangesFrom line (index + 1) first pending rest
    else
      flushed pending ++ List.replicate (t.line - line) ';'
        ++ encodeRangesFrom t.line (index + 1) index [] rest
where
  /-- The text of the marks that are waiting. -/
  flushed (pending : List Nat) : List Char := encodeMarks (pending.foldl max 0 + 1) pending

/-- The text of the range marks of tokens, if there are range tokens. -/
def encodeRanges (ts : List MapToken) : Option String :=
  if ts.any (·.isRange) then some (String.ofList (encodeRangesFrom 0 0 0 [] ts)) else none

end Mappings

end LoopGuard
