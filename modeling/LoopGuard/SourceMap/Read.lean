import LoopGuard.Json.Record
import LoopGuard.SourceMap.DebugId
import LoopGuard.SourceMap.Mappings

/-!
# Reading source maps

`InputSourceMap.from_json`, that is, `from_slice` of `sourcemap`. A source map is a JSON object all
of whose members may be missing or `null`. In front of it may stand a line of junk, which keeps a
map from being run as a script. A map that is a list of maps, or one with function names, is read
but not accepted.

The members are read as the decoder that `serde` derives for `RawSourceMap` reads them. The debug id
is flattened into it, which makes this more than a `Json.Record`: members without a meaning are kept
as values, and looked through for the id at the end. What the members hold is checked only when the
whole text has been read, so a fault of the text comes before a fault of the mappings.
-/

namespace LoopGuard

namespace SourceMap

/-! ## Junk -/

/-- Whether a line of junk may start with the character. -/
def startsJunk (c : Char) : Bool := c == ')' || c == ']' || c == '\x7d' || c == '\''

/-- The text from the next line feed on. A carriage return must have one behind it. -/
def skipLine : List Char → Except MapFault (List Char)
  | [] => .ok []
  | '\n' :: rest => .ok ('\n' :: rest)
  | '\r' :: '\n' :: rest => .ok ('\n' :: rest)
  | ['\r'] => .ok []
  | '\r' :: _ => .error .expectedNewline
  | _ :: rest => skipLine rest

/-- The text without a line of junk in front of it. -/
def skipJunk (text : List Char) : Except MapFault (List Char) :=
  if text.head?.any startsJunk then skipLine text else .ok text

/-! ## Members -/

/-- What a map's text says. -/
structure Draft where
  file : Option Json.Value := none
  sources : List (Option String) := []
  sourceRoot : Option String := none
  contents : List (Option String) := []
  names : List Json.Value := []
  ranges : String := ""
  mappings : String := ""
  ignored : List Nat := []
  /-- For each of the maps the text is a list of, why it is refused if it is. -/
  sections : Option (List (Option MapFault)) := none
  hasFunctionNames : Bool := false
  debugId : Option DebugId := none

/-- The text of a name. -/
def nameText : Json.Value → String
  | .string s => s
  | .number n => n.text
  | _ => ""

/-- The text of a file. -/
def fileText : Json.Value → String
  | .string s => s
  | _ => "<invalid>"

/-- Numbers in ascending order, each once. -/
def ascending (ns : List Nat) : List Nat :=
  (ns.mergeSort).foldr (fun n rest => if rest.head? == some n then rest else n :: rest) []

/-- The map of a draft that is no list of maps. -/
def Draft.plain (d : Draft) : Except MapFault SourceMap := do
  let tokens ← Mappings.decode ⟨d.sources.length, d.names.length⟩ d.mappings d.ranges
  return {
    file := d.file.map fileText
    sources := d.sources.map (·.getD "")
    sourceRoot := d.sourceRoot
    contents := (List.range d.sources.length).map fun i => d.contents[i]?.join
    names := d.names.map nameText
    tokens := MapToken.sortBy MapToken.place tokens
    ignored := ascending d.ignored
    debugId := d.debugId }

/-- Why a draft is refused wherever it stands, if it is. -/
def Draft.fault? (d : Draft) : Option MapFault :=
  match d.sections with
  | some faults => faults.findSome? id
  | none =>
    match d.plain with
    | .error f => some f
    | .ok _ => none

/-- The map of a draft. -/
def Draft.map (d : Draft) : Except MapFault SourceMap :=
  match d.fault? with
  | some f => .error f
  | none => if d.sections.isSome || d.hasFunctionNames then .error .incompatible else d.plain

open Json.Reader in
/-- A member of a map, told by its key, stored into a draft by a reader. `depth` containers may be
opened inside the map, and `inner` reads a map in a list of maps. -/
def members (depth : Nat) (inner : Json.Reader Draft) :
    List (String × (Draft → Json.Reader Draft)) :=
  let string (set : Draft → Option String → Draft) (d : Draft) : Json.Reader Draft :=
    return set d (← optional text)
  let strings (set : Draft → List (Option String) → Draft) (d : Draft) : Json.Reader Draft :=
    return set d ((← optional (array depth (optional text))).getD [])
  let checked (α : Type) (r : Json.Reader α) (d : Draft) : Json.Reader Draft := do
    let _ ← optional r
    return d
  [("version", checked Nat (natural 32 "u32")),
   ("file", fun d => return { d with file := ← optional (value depth) }),
   ("sources", strings fun d sources => { d with sources }),
   ("sourceRoot", string fun d sourceRoot => { d with sourceRoot }),
   ("sourcesContent", strings fun d contents => { d with contents }),
   ("sections", fun d => return { d with sections := ← optional (array depth (listedMap inner)) }),
   ("names", fun d => do
    let names ← optional (array depth (value (depth - 1)))
    return { d with names := names.getD [] }),
   ("rangeMappings", string fun d ranges => { d with ranges := ranges.getD "" }),
   ("mappings", string fun d mappings => { d with mappings := mappings.getD "" }),
   ("ignoreList", fun d =>
      return { d with ignored := (← optional (array depth (natural 32 "u32"))).getD [] }),
   ("x_facebook_offsets", checked (List (Option Nat)) (array depth (optional (natural 32 "u32")))),
   ("x_metro_module_paths", checked (List String) (array depth text)),
   ("x_facebook_sources", fun d =>
      return { d with
        hasFunctionNames :=
          (← optional (array depth (optional (array (depth - 1) functionNames)))).isSome })]
where
  /-- Where a map in a list of maps belongs. -/
  offset : Json.ScalarRecord Place :=
    { name := "RawSectionOffset"
      fields := [.of "line" true .word32 fun p line => { p with line },
        .of "column" true .word32 fun p column => { p with column }]
      blank := ⟨0, 0⟩
      allowsShortArray := false }
  /-- A map in a list of maps; answers why it is refused if it is. -/
  listedMap (inner : Json.Reader Draft) : Json.Reader (Option MapFault) :=
    Json.Record.read
      { name := "RawSection"
        fields :=
          [⟨"offset", true, fun f => return (fun _ => f) (← offset.read)⟩,
           ⟨"url", false, fun f => return (fun _ => f) (← optional text)⟩,
           ⟨"map", false, fun _ => return (← optional inner).bind Draft.fault?⟩]
        blank := none
        allowsShortArray := false }
  /-- The names of the functions of a source. -/
  functionNames : Json.Reader Unit :=
    Json.Record.read
      { name := "FacebookScopeMapping"
        fields :=
          [⟨"names", true, fun _ => return (fun _ => ()) (← array (depth - 3) text)⟩,
           ⟨"mappings", true, fun _ => return (fun _ => ()) (← text)⟩]
        blank := ()
        allowsShortArray := false }

/-- A map that is being read: the members with a meaning, their keys, and all others. -/
structure Reading where
  draft : Draft := {}
  seen : List String := []
  others : List (String × Json.Value) := []

/-- Reads what stands behind a key. -/
def member (depth : Nat) (inner : Json.Reader Draft) (key : String) (r : Reading) :
    Json.Reader Reading := do
  match (members depth inner).find? (·.1 == key) with
  | some (_, read) =>
    if r.seen.contains key then Json.Reader.failValue (.duplicateField key)
    else
      Json.Reader.colon
      return { r with draft := ← read r.draft, seen := key :: r.seen }
  | none =>
    Json.Reader.colon
    return { r with others := r.others ++ [(key, ← Json.Reader.value depth)] }

/-- The debug id that a value stands for, if it is not `null`. -/
def debugIdOf : Json.Value → Except Json.Fault (Option DebugId)
  | .null => .ok none
  | .string s =>
    match DebugId.ofString? s with
    | some id => .ok (some id)
    | none => .error (.invalidValue (.string s) "DebugId")
  | v => .error (.invalidType (.ofValue v) "DebugId")

/-- The debug ids among members: under the key of today, and under the one of old. -/
def debugIds : Option (Option DebugId) → Option (Option DebugId) → List (String × Json.Value) →
    Except Json.Fault (Option DebugId)
  | camel, snake, [] => .ok ((camel.bind id).or (snake.bind id))
  | camel, snake, (key, v) :: rest => do
    if key == "debugId" then
      if camel.isSome then .error (.duplicateField key)
      else debugIds (some (← debugIdOf v)) snake rest
    else if key == "debug_id" then
      if snake.isSome then .error (.duplicateField key)
      else debugIds camel (some (← debugIdOf v)) rest
    else debugIds camel snake rest

/-- Reads a map in which `depth` containers may be opened, where `inner` reads a map in a list of
maps. -/
def draftOver (depth : Nat) (inner : Json.Reader Draft) : Json.Reader Draft := Json.Reader.placed do
  match ← Json.Reader.token with
  | none => Json.Reader.failNext .endInValue
  | some '\x7b' =>
    Json.Reader.drop
    Json.Reader.objectBody do
      let r ← Json.Reader.members (member depth inner) (← Json.Reader.fuelHere) true {}
      match debugIds none none r.others with
      | .ok debugId => return { r.draft with debugId }
      | .error f => Json.Reader.failValue f
  | some _ => Json.Reader.unexpected "struct RawSourceMap"

/-- Reads a map; lists of maps may be inside each other `nesting` times. Each takes three
containers. -/
def draft : Nat → Json.Reader Draft
  | 0 => draftOver 0 (Json.Reader.failNext .tooDeep)
  | nesting + 1 => draftOver (3 * nesting + 3) (draft nesting)

/-- The map that a text stands for: `from_json`. -/
def decode (text : String) : Except MapFault SourceMap := do
  let content := String.ofList (← skipJunk text.toList)
  match Json.read (draft (Json.depthLimit / 3)) content with
  | .error e => .error (.json (e.message content))
  | .ok d => d.map

end SourceMap

end LoopGuard
