import LoopGuard.SourceMap.Basic
import LoopGuard.Syntax.Printer.Writer

/-!
# The source map of written code

`build_source_map` of `swc_common`: the marks that a writer leaves, as the tokens of a source map
with one source. Here lines of the source end at a line feed, at a carriage return, or at the two
together, and columns count UTF-16 units from the start of the line. After a lone carriage return
these are other columns than those of loop keys. The contents of the source are not written, as for
every file that has a name of its own choice rather than a path.
-/

namespace LoopGuard

namespace SourceMap

/-- The places of the offsets of a text, its end included, where the text starts at a place. -/
def placesFrom (p : Place) : List Char → List Place
  | [] => [p]
  | c :: rest =>
    let next : Place :=
      if c = '\n' ∨ (c = '\r' ∧ rest.head? ≠ some '\n') then ⟨p.line + 1, 0⟩
      else ⟨p.line, p.column + utf16Width c⟩
    p :: placesFrom next rest

/-- The places of the offsets of a text, its end included. -/
def places (text : List Char) : List Place := placesFrom ⟨0, 0⟩ text

/-- A list without the elements that equal the one in front of them. -/
def dropRepeats [BEq α] : List α → List α
  | [] => []
  | [a] => [a]
  | a :: b :: rest => if a == b then dropRepeats (b :: rest) else a :: dropRepeats (b :: rest)

/-- The token of a mark, given the places of the source. -/
def tokenOfMark (places : Array Place) (m : WrittenMark) : MapToken :=
  let p := places.getD m.offset default
  ⟨m.line, m.column, some 0, p.line, p.column, none, false⟩

/-- The map that marks make, for code written from the text of a file. -/
def ofMarks (file : String) (source : List Char) (marks : Array WrittenMark) : SourceMap :=
  let places := (places source).toArray
  let tokens := marks.toList.map (tokenOfMark places)
  { sources := if tokens.isEmpty then [] else [file]
    tokens := dropRepeats tokens }

end SourceMap

end LoopGuard
