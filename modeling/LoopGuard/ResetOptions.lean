import LoopGuard.Json.Record
import LoopGuard.Position

/-!
# Reset options

Model of `ResetOptions`, the argument of the call that starts a loop's clock: which loop it is, and
where a diagnostic says it stands. Options, positions and loop keys derive their JSON forms; what
`serde` derives for them is a `Json.ScalarRecord` here, with the names and types of the fields and
whether they may be missing.

Results:
* `ResetOptions.encode_eq`: the text of options.
-/

namespace LoopGuard

/-- `ResetOptions`: which loop starts, and the place its diagnostics name. Line and column are the
original ones where a source map is known. -/
structure ResetOptions where
  key : String
  file : String
  line : Nat
  column : Nat
  deriving Repr, DecidableEq, Inhabited

namespace ResetOptions

/-- Options as a record of key, file, line and column. None of the four may be missing, and unknown
fields are passed over. -/
def record : Json.ScalarRecord ResetOptions where
  name := "ResetOptions"
  fields :=
    [.of "key" true .string fun o key => { o with key },
     .of "file" true .string fun o file => { o with file },
     .of "line" true .word32 fun o line => { o with line },
     .of "column" true .word32 fun o column => { o with column }]
  blank := ⟨"", "", 0, 0⟩
  allowsShortArray := false

/-- The options that a JSON text stands for, as `serde_json` reads them from text. -/
def decode (text : String) : Except Json.Error ResetOptions := Json.read record.read text

/-- The options that a JSON value stands for, as `serde_json` reads them from a value. -/
def ofValue (v : Json.Value) : Except Json.Fault ResetOptions := record.ofValue v

/-- The options as a JSON object, in the order key, file, line, column. -/
def toValue (o : ResetOptions) : Json.Value :=
  .object [("key", .string o.key), ("file", .string o.file), ("line", .ofNat o.line),
    ("column", .ofNat o.column)]

/-- The options as JSON text. -/
def encode (o : ResetOptions) : String := o.toValue.encode

theorem encode_eq (o : ResetOptions) :
    o.encode = "\x7b" ++ (Json.quote "key" ++ ":" ++ Json.quote o.key ++ ","
      ++ (Json.quote "file" ++ ":" ++ Json.quote o.file ++ ","
        ++ (Json.quote "line" ++ ":" ++ Nat.repr o.line ++ ","
          ++ (Json.quote "column" ++ ":" ++ Nat.repr o.column)))) ++ "\x7d" := rfl

end ResetOptions

namespace Position

/-- Positions as a record of line and column, both of them needed. -/
def record : Json.ScalarRecord Position where
  name := "Position"
  fields :=
    [.of "line" true .word32 fun p line => { p with line },
     .of "column" true .word32 fun p column => { p with column }]
  blank := ⟨0, 0⟩
  allowsShortArray := false

/-- The position that a JSON text stands for. -/
def decode (text : String) : Except Json.Error Position := Json.read record.read text

/-- The position as JSON text. -/
def encode (p : Position) : String :=
  (Json.Value.object [("line", .ofNat p.line), ("column", .ofNat p.column)]).encode

end Position

namespace LoopKey

/-- The key that a JSON text stands for. A key is transparent: its form is that of its text. -/
def decode (text : String) : Except Json.Error LoopKey :=
  (Json.read Json.Reader.text text).map LoopKey.mk

/-- The key as JSON text, a plain string. -/
def encode (k : LoopKey) : String := Json.quote k.text

end LoopKey

end LoopGuard
