import LoopGuard.Json.Value
import LoopGuard.Position
import LoopGuard.SourceMap.Mappings

/-!
# Writing source maps

`to_writer` of `sourcemap`, which writes a source map as compact JSON text, and
`original_position_for`, the answer to where a position comes from. A map is looked up in lines and
columns that count from zero, where positions have lines from one on.
-/

namespace LoopGuard

namespace SourceMap

/-- A member of a map that is written only if there is something to write. -/
def memberIf (key : String) (v : Option Json.Value) : List (String × Json.Value) :=
  match v with
  | some v => [(key, v)]
  | none => []

/-- The texts of the sources, if at least one is known. -/
def contentsValue (m : SourceMap) : Option Json.Value :=
  if m.contents.any (·.isSome) then
    some (.array (m.contents.map fun c =>
      match c with
      | some text => .string text
      | none => .null))
  else none

/-- The map as a JSON value. -/
def toValue (m : SourceMap) : Json.Value :=
  .object
    ([("version", .ofNat 3)]
      ++ memberIf "file" (m.file.map .string)
      ++ [("sources", .array (m.sources.map .string))]
      ++ memberIf "sourceRoot" (m.sourceRoot.map .string)
      ++ memberIf "sourcesContent" m.contentsValue
      ++ [("names", .array (m.names.map .string))]
      ++ memberIf "rangeMappings" ((Mappings.encodeRanges m.tokens).map .string)
      ++ [("mappings", .string (Mappings.encode m.tokens))]
      ++ memberIf "ignoreList"
        (if m.ignored.isEmpty then none else some (.array (m.ignored.map .ofNat)))
      ++ memberIf "debugId" (m.debugId.map fun id => .string id.text))

/-- The map as JSON text. -/
def encode (m : SourceMap) : String := m.toValue.encode

/-- How far the column of a place that is looked up moves on in the source. -/
def columnShift (t : MapToken) (column : Nat) : Nat := if t.isRange then column - t.column else 0

/-- `original_position_for`: the source place of the last token at or in front of a position, if
this is on the same line and comes from a source. A position on line zero comes from nowhere. Lines
of the source are numbered within 32 bits: the sum that makes them count from one wraps. -/
def originalPosition? (m : SourceMap) (p : Position) : Option Position :=
  if p.line = 0 then none
  else
    match m.lookup ⟨p.line - 1, p.column⟩ with
    | none => none
    | some t =>
      if t.line = p.line - 1 ∧ t.source.isSome then
        some ⟨(t.sourceLine + 1) % UInt32.size,
          min (t.sourceColumn + columnShift t p.column) (UInt32.size - 1)⟩
      else none

end SourceMap

end LoopGuard
