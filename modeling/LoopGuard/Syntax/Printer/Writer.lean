import LoopGuard.Position
import LoopGuard.Syntax.Comment
import LoopGuard.Syntax.Lexer.Basic
import LoopGuard.Syntax.Span

/-!
# Writing code

`JsWriter`: a writer of indented text that knows which line and column it is at and notes which
offset of the source each place was written for. A place at the start of a line is noted when the
line gets its first text, behind the indentation.
-/

namespace LoopGuard

/-- A place in written text and the source offset it was written for. Lines and columns count from
zero, columns in UTF-16 units. -/
structure WrittenMark where
  line : Nat
  column : Nat
  offset : Nat
  deriving Repr, DecidableEq, Inhabited

/-- Text being written: the text itself with the place behind it, the marks, and the comments that
may still be written. -/
structure Writer where
  text : String := ""
  line : Nat := 0
  column : Nat := 0
  indent : Nat := 0
  /-- Nothing has been written on the current line. -/
  atLineStart : Bool := true
  /-- The source offset of what the current line will start with. -/
  pendingMark : Option Nat := none
  marks : Array WrittenMark := #[]
  /-- Comments that have not been written. -/
  comments : Comments := .none
  deriving Inhabited

/-- A step of writing. -/
abbrev Emit := StateM Writer

namespace Writer

/-- Line and column behind some text. A carriage return and a line feed in a row end one line. -/
def moveOver : List Char → Nat → Nat → Nat × Nat
  | [], line, column => (line, column)
  | '\r' :: '\n' :: rest, line, _ => moveOver rest (line + 1) 0
  | c :: rest, line, column =>
    if c = '\n' ∨ c = '\r' then moveOver rest (line + 1) 0
    else moveOver rest line (column + utf16Width c)

/-- Adds text as it is, and moves the place behind it: `raw_write`. -/
def append (w : Writer) (s : String) : Writer :=
  let (line, column) := moveOver s.toList w.line w.column
  { w with text := w.text ++ s, line, column }

/-- Notes that what comes next was written for a source offset: `srcmap`. -/
def mark (w : Writer) (offset : Nat) : Writer :=
  { w with marks := w.marks.push ⟨w.line, w.column, offset⟩ }

/-- Notes the mark that was waiting for the line's first text. -/
def settleMark (w : Writer) : Writer :=
  match w.pendingMark with
  | some offset => { w with pendingMark := none }.mark offset
  | none => w

/-- The spaces a line of the present indentation starts with. -/
def indentation (w : Writer) : String := String.ofList (List.replicate (4 * w.indent) ' ')

/-- Writes text, behind the indentation at the start of a line. The mark that waits for the line is
noted between the two. Empty text does not begin a line. -/
def write (w : Writer) (s : String) : Writer :=
  if s.isEmpty then w
  else if w.atLineStart then
    ({ w.append w.indentation with atLineStart := false }.settleMark).append s
  else w.append s

/-- Writes text that is marked on both sides, behind the indentation at the start of a line. -/
def writeMarked (w : Writer) (lo hi : Nat) (s : String) : Writer :=
  if w.atLineStart then
    ((({ w.append w.indentation with atLineStart := false }.settleMark).mark lo).append s).mark hi
  else ((w.mark lo).append s).mark hi

/-- `write_line`: ends the line, unless nothing has been written on it. A mark that waits for the
line's first text is noted at the start of the next line. -/
def endLine (w : Writer) : Writer :=
  let pending := w.pendingMark
  let w := { w with pendingMark := none }
  if w.atLineStart then w
  else
    let w := { w with text := w.text ++ "\n", line := w.line + 1, column := 0, atLineStart := true }
    match pending with
    | some offset => w.mark offset
    | none => w

end Writer

namespace Emit

/-- Writes text. -/
def put (s : String) : Emit Unit := modify (·.write s)

/-- Ends the line, unless nothing has been written on it. -/
def line : Emit Unit := modify Writer.endLine

/-- Writes a space. -/
def space : Emit Unit := put " "

/-- Writes text that is marked on both sides, if it has a place. -/
def putMarked (s : Span) (text : String) : Emit Unit :=
  match s with
  | .synthetic => put text
  | .source lo hi => modify (·.writeMarked lo hi text)

/-- Runs a step one level further in, between `increase_indent` and `decrease_indent`. -/
def indented (e : Emit Unit) : Emit Unit := do
  modify fun w => { w with indent := w.indent + 1 }
  e
  modify fun w => { w with indent := w.indent - 1 }

/-- Notes that what comes next was written for a source offset. -/
def mark (offset : Nat) : Emit Unit :=
  modify fun w => if w.atLineStart then { w with pendingMark := some offset } else w.mark offset

/-- Notes that what comes next was written for a source offset, in front of the indentation at the
start of a line. -/
def markHere (offset : Nat) : Emit Unit := modify (·.mark offset)

/-- Marks the start of a span, if it has a place. -/
def markStart (s : Span) : Emit Unit :=
  match s with
  | .synthetic => pure ()
  | .source lo _ => mark lo

/-- Marks the end of a span, if it has a place. -/
def markEnd (s : Span) : Emit Unit :=
  match s with
  | .synthetic => pure ()
  | .source _ hi => mark hi

/-- Marks the last character of a span, if it has a place. -/
def markLast (s : Span) : Emit Unit :=
  match s with
  | .synthetic => pure ()
  | .source _ hi => mark (hi - 1)

/-! ## Comments -/

/-- Writes a comment and what separates it from what follows: the end of the line behind a line
comment, a space behind a block comment. -/
def comment (c : Comment) : Emit Unit := do
  mark c.lo
  match c.kind with
  | .line =>
    put ("//" ++ String.ofList c.text)
    mark c.hi
    line
  | .block =>
    put ("/*" ++ String.ofList c.text)
    mark (c.hi - 2)
    put "*/"
    space

/-- `emit_leading_comments`: writes the comments in front of an offset, which are then used up. -/
def leadingAt (offset : Nat) : Emit Unit := do
  let w ← get
  let (cs, comments) := w.comments.takeLeading offset
  set { w with comments }
  for c in cs do comment c

/-- Writes the comments in front of the last character of a span. -/
def leadingLast (s : Span) : Emit Unit :=
  match s with
  | .synthetic => pure ()
  | .source _ hi => leadingAt (hi - 1)

/-- Whether comments wait to be written in front of the last character of a span. -/
def hasLeadingLast (s : Span) : Emit Bool :=
  match s with
  | .synthetic => return false
  | .source _ hi => return (← get).comments.leading.any (·.offset == hi - 1)

/-- Takes the comments behind an offset out of those to be written. -/
def takeTrailing (offset : Nat) : Emit (List Comment) := do
  let w ← get
  let (cs, comments) := w.comments.takeTrailing offset
  set { w with comments }
  return cs

/-- `emit_trailing_comments_of_pos`: writes the comments behind an offset, each behind a space. -/
def trailingAt (offset : Nat) : Emit Unit := do
  for c in ← takeTrailing offset do
    space
    comment c

/-- Writes the comments behind an element of a list, without a space in front of them. -/
def trailingElement (s : Span) : Emit Unit :=
  match s with
  | .synthetic => pure ()
  | .source _ hi => do
    for c in ← takeTrailing hi do comment c

/-- Writes the comments in front of a span. -/
def leading (s : Span) : Emit Unit :=
  match s with
  | .synthetic => pure ()
  | .source lo _ => leadingAt lo

/-- Writes the comments in front of the place `n` characters before a span. -/
def leadingBefore (n : Nat) (s : Span) : Emit Unit :=
  match s with
  | .synthetic => pure ()
  | .source lo _ => leadingAt (lo - n)

/-- Whether a comment in front of a span, if written there, would end a line. -/
def hasLeadingLineBreak (s : Span) : Emit Bool :=
  match s with
  | .synthetic => return false
  | .source lo _ => return (Comments.attached lo (← get).comments.leading).any Comment.breaksLine

/-- Writes the comments behind a span. -/
def trailing (s : Span) : Emit Unit :=
  match s with
  | .synthetic => pure ()
  | .source _ hi => trailingAt hi

end Emit

end LoopGuard
