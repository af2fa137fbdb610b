import LoopGuard.SourceMap.DebugId
import LoopGuard.Sorting

/-!
# Source maps

The source maps of the package `sourcemap`, as far as the program uses them: decoded ones, looked up
by place, composed and written again. A source map lists places of generated text, in their order,
and says where in which source each comes from. A place stands for what follows it on its line, up
to the next place.

Sources, names and contents are kept as lists and tokens refer to them by number, as in the written
form. Maps that are lists of maps are read only to be refused, and maps for other packages'
formats, such as those with function names, likewise.
-/

namespace LoopGuard

/-- `RawToken`: a place of generated text and where it comes from. Lines and columns count from
zero, columns in UTF-16 units, and all of them are numbers of 32 bits. -/
structure MapToken where
  line : Nat
  column : Nat
  /-- The number of the source, if it comes from one. -/
  source : Option Nat
  /-- Where in the source; without a source, where the token before came from. -/
  sourceLine : Nat
  sourceColumn : Nat
  /-- The number of the name it had in the source. -/
  name : Option Nat
  /-- Columns move on in the source as they do in the generated text. -/
  isRange : Bool
  deriving Repr, DecidableEq, Inhabited

/-- A line and a column, both from zero on. -/
structure Place where
  line : Nat
  column : Nat
  deriving Repr, DecidableEq, Inhabited

namespace Place

/-- Whether a place lies in front of another one. -/
def before (a b : Place) : Bool := a.line < b.line || (a.line == b.line && a.column < b.column)

/-- The later one of two places. -/
def max (a b : Place) : Place := if a.before b then b else a

/-- The earlier one of two places. -/
def min (a b : Place) : Place := if b.before a then b else a

end Place

namespace MapToken

/-- Where the token is in the generated text. -/
def place (t : MapToken) : Place := ⟨t.line, t.column⟩

/-- Where the token is in its source. -/
def sourcePlace (t : MapToken) : Place := ⟨t.sourceLine, t.sourceColumn⟩

/-- Tokens in the order of some of their places. -/
def sortBy (key : MapToken → Place) (ts : List MapToken) : List MapToken :=
  Sorting.sort (fun a b => (key a).before (key b)) ts

end MapToken

/-- `SourceMap`: a decoded source map, with its tokens in the order of their places. -/
structure SourceMap where
  file : Option String := none
  sources : List String := []
  sourceRoot : Option String := none
  /-- The text of each source, as far as it is known. -/
  contents : List (Option String) := []
  names : List String := []
  /-- The tokens, in the order of the generated text. -/
  tokens : List MapToken := []
  /-- Numbers of sources that are not the author's, ascending. -/
  ignored : List Nat := []
  debugId : Option DebugId := none
  deriving Repr, DecidableEq, Inhabited

namespace SourceMap

/-- `lookup_token`: the last token at or in front of a place; of several at the place itself, the
first. It may lie on an earlier line than the place. -/
def lookup (m : SourceMap) (p : Place) : Option MapToken :=
  match m.tokens.find? (·.place == p) with
  | some t => some t
  | none => m.tokens.reverse.find? (·.place.before p)

end SourceMap

end LoopGuard
