import LoopGuard.Loop.Protect
import LoopGuard.SourceMap.Compose
import LoopGuard.SourceMap.Printed
import LoopGuard.SourceMap.Read
import LoopGuard.SourceMap.Write
import LoopGuard.Syntax.Parse
import LoopGuard.Syntax.Printer.Module

/-!
# Instrumenting a text

Model of `Transformer`, `protect_loops` and `TransformError`: from the text of a script or module to
the text with every loop protected, and a source map of it. Either all loops are protected or none
is.

The stages come one after the other, and the first that fails decides the error: the alias, the
input source map, the parser, the walk. Printing and encoding do not fail on trees and maps that
were read, so the errors `Print` and `Json`, and `SourceMap` for the map that is written, have no
constructor here. `protect_loops` is `transform` without an input map.

What the program takes from packages is modelled as far as a transform shows it: `Syntax` is the
lexer and parser `swc_ecma_parser`, the tree `swc_ecma_ast` and the printer `swc_ecma_codegen` with
their default options, `SourceMap` is `sourcemap` and the map that `swc_common` builds, and `Json`
is `serde_json`. `Sorting` and `Text` hold what these and the program use of the standard library
and of Unicode. Everything else (`Position`, `ResetOptions`, `Registry`, `Loop` and this module) is
the program's own.

Results:
* `Transformer.run_eq_error_of_offence`: a loop that cannot be protected makes the whole text fail.
-/

namespace LoopGuard

/-- `TransformOptions`: what is to be instrumented. -/
structure TransformOptions where
  /-- The name under which the instrumented code reaches its guard registry. -/
  guardAlias : String
  file : String
  code : String
  /-- A source map of the code, as JSON text: that of an earlier stage. -/
  sourceMap : Option String := none
  /-- A source map is wanted even if the code has none. -/
  emitsSourceMap : Bool := false
  deriving Repr, DecidableEq, Inhabited

/-- `TransformError`: why nothing is instrumented. -/
inductive TransformError where
  /-- The parser rejects the text. -/
  | parse (file : String) (position : Position) (fault : Fault)
  /-- A loop stands where no reset call can go. -/
  | unsupportedParent (file : String) (offence : Offence)
  /-- The alias is no path of names. -/
  | invalidAlias (name : String)
  /-- The input source map cannot be decoded. -/
  | sourceMap (fault : MapFault)

namespace TransformError

/-- The message of an error. -/
def message : TransformError → String
  | parse file p fault => "failed to parse " ++ file ++ " at " ++ p.text ++ ": " ++ fault.message
  | unsupportedParent file o =>
    "no handler for loop parent with type " ++ o.parent.syntaxName ++ " at " ++ file ++ ":"
      ++ o.position.text
  | invalidAlias name => "invalid guard alias: " ++ Quoted.quoted name
  | sourceMap fault => "source map error: " ++ fault.text

/-- `is_collaborator_failure`: whether the text could not be read. -/
def isParse : TransformError → Bool
  | parse .. => true
  | _ => false

/-- `is_unsupported_parent`: whether a loop stands where no reset call can go. -/
def isUnsupportedParent : TransformError → Bool
  | unsupportedParent .. => true
  | _ => false

end TransformError

/-- What is logged on the way: each loop when it is protected, and at the end how many there
were. -/
inductive TransformEvent where
  | guarded (site : LoopSite)
  | instrumented (file : String) (loops : Nat)
  deriving Repr, DecidableEq, Inhabited

/-- `TransformOutput`: an instrumented text. -/
structure TransformOutput where
  code : String
  /-- A source map as JSON text, put on top of the input map if there is one. -/
  sourceMap : Option String
  /-- The loops in the order they were protected. -/
  loops : List LoopSite
  deriving Repr, DecidableEq, Inhabited

/-- `Transformer`: a text with everything that instrumenting it takes, checked and decoded. -/
structure Transformer where
  guardAlias : Alias
  file : String
  /-- The text, without a byte order mark in front. -/
  code : List Char
  inputMap : Option SourceMap
  emitsSourceMap : Bool

/-- A text without the byte order mark it may start with, as `swc_common` keeps it: the mark has no
place and no width. -/
def withoutMark : List Char → List Char
  | '\ufeff' :: rest => rest
  | text => text

namespace Transformer

/-- `Transformer.new`: checks the options, first the alias, then the source map. -/
def of (o : TransformOptions) : Except TransformError Transformer :=
  match Alias.ofString? o.guardAlias with
  | none => .error (.invalidAlias o.guardAlias)
  | some guardAlias => do
    let inputMap ← o.sourceMap.mapM fun text => (SourceMap.decode text).mapError .sourceMap
    return ⟨guardAlias, o.file, withoutMark o.code.toList, inputMap, o.emitsSourceMap⟩

/-- What the walk over the text needs to know. Loops never start at the end of a text, so their
positions are counted along it. -/
def protector (t : Transformer) : Protector where
  file := t.file
  guardAlias := t.guardAlias
  place := Position.of t.code
  resolve p := t.inputMap.bind (·.originalPosition? p)

/-- The walk over a text that has been read, with the alias and the resolver of this transformer. -/
def walk (t : Transformer) (p : ParsedText) : Traced Program := t.protector.protectProgram p.program

/-- The source map of what has been written, if one is wanted. With an input map it is always
wanted, and is the input map after the printed one. -/
def mapOf (t : Transformer) (w : Writer) : Option String :=
  let printed := SourceMap.ofMarks t.file t.code w.marks
  match t.inputMap with
  | some input => some (input.after printed.tokens).encode
  | none => if t.emitsSourceMap then some printed.encode else none

/-- The output for a text whose loops have all been protected: `print_program` and the map. -/
def output (t : Transformer) (p : ParsedText) : TransformOutput :=
  let walked := t.walk p
  let w := walked.value.written p.comments
  ⟨w.text, t.mapOf w, WalkEvent.sites walked.events⟩

/-- What is logged in the walk over a text. -/
def walkEvents (t : Transformer) (p : ParsedText) : List TransformEvent :=
  (WalkEvent.sites (t.walk p).events).map .guarded

/-- `Transformer.transform`: instruments the text; also answers what is logged. A parse error has
its position from the line table, since it may lie at the end of the text. -/
def run (t : Transformer) : Except TransformError TransformOutput × List TransformEvent :=
  match ParsedText.ofSource t.code.toArray with
  | .error d => (.error (.parse t.file (Position.lookedUp t.code d.offset) d.fault), [])
  | .ok p =>
    match WalkEvent.offence? (t.walk p).events with
    | some o => (.error (.unsupportedParent t.file o), t.walkEvents p)
    | none =>
      let out := t.output p
      (.ok out, t.walkEvents p ++ [.instrumented t.file out.loops.length])

theorem run_eq_error_of_offence {t : Transformer} {p : ParsedText} {o : Offence}
    (hp : ParsedText.ofSource t.code.toArray = .ok p)
    (ho : WalkEvent.offence? (t.walk p).events = some o) :
    t.run.1 = .error (.unsupportedParent t.file o) := by
  simp [run, hp, ho]

end Transformer

/-- Instruments a text from its options; also answers what is logged. -/
def transform (o : TransformOptions) :
    Except TransformError TransformOutput × List TransformEvent :=
  match Transformer.of o with
  | .error e => (.error e, [])
  | .ok t => t.run

end LoopGuard
