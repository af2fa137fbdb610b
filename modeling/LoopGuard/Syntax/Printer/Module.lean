import LoopGuard.Syntax.Printer.Node

/-!
# Printing scripts and modules

Declarations about other modules, and whole programs: `print_program` up to the source map.
-/

namespace LoopGuard

namespace Print

open Emit Layout

/-- Writes the name of another module's binding. -/
def external : ExternalName → Emit Unit
  | .word span text => do
    leading span
    markStart span
    put text
  | .string span value raw => stringText span value raw

/-- Writes the name of a module. -/
def moduleName (m : ModuleName) : Emit Unit := stringText m.span m.value m.raw

/-- The writer of one binding of an import declaration. -/
def importSpecifier : ImportSpecifier → WrittenChild
  | .default span binding => ⟨span, label binding⟩
  | .namespace span binding => ⟨span, do
      put "* as "
      label binding⟩
  | .named span imported binding => ⟨span, do
      -- The comments in front of the name come behind this mark.
      markStart span
      match imported with
      | some n =>
        external n
        put " as "
      | none => pure ()
      label binding
      markEnd span⟩

/-- Whether a binding stands between the braces of an import declaration. -/
def isNamedImport : ImportSpecifier → Bool
  | .named .. => true
  | _ => false

/-- The writer of one entry of an export list. -/
def exportSpecifier : ExportSpecifier → WrittenChild
  | .namespace span exported => ⟨span, do
      leading span
      markStart span
      put "* as "
      external exported
      markEnd span⟩
  | .named span name exported => ⟨span, do
      leading span
      markStart span
      external name
      match exported with
      | some n =>
        put " as "
        external n
      | none => pure ()
      markEnd span⟩

/-- Writes names between braces on one line, with a comma at the end if one was read there. -/
def namesInBraces (items : List WrittenChild) (endsInComma : Bool) : Emit Unit := do
  put "\x7b "
  separated (bareElements items)
  if !items.isEmpty then
    if endsInComma then put ", "
    space
  put "\x7d"

/-- `emit_module_item`: writes an element of a script or module. -/
def item : Item → Emit Unit
  | .stmt s => statement s
  | .imports span phase specifiers source endsInComma => do
    leading span
    markStart span
    put "import "
    if let some word := phase.word? then put (word ++ " ")
    let (named, others) := specifiers.partition isNamedImport
    separated (others.map fun s => (importSpecifier s).bare)
    if !named.isEmpty then
      if !others.isEmpty then put ", "
      namesInBraces (named.map importSpecifier) endsInComma
    if !specifiers.isEmpty then put " from "
    moduleName source
    put ";"
    markEnd span
    finish span
  | .exportList span specifiers source endsInComma => do
    leading span
    markStart span
    put "export "
    match specifiers with
    | [.namespace s exported] => (exportSpecifier (.namespace s exported)).bare
    | _ => namesInBraces (specifiers.map exportSpecifier) endsInComma
    match source with
    | some m =>
      put " from "
      moduleName m
    | none => pure ()
    put ";"
    markEnd span
    finish span
  | .exportAll span source => do
    leading span
    markStart span
    put "export * from "
    moduleName source
    put ";"
    markEnd span
    finish span
  | .exportDecl span decl => do
    leading span
    markStart span
    put "export "
    node decl
    if isVariables decl then
      put ";"
      markEnd decl.span
    finish span
  | .exportValue span value => do
    leading span
    markStart span
    put "export default "
    node value
    trailing value.span
    put ";"
    markEnd span
    finish span
  | .exportDefault span decl => do
    leading span
    markStart span
    put "export default "
    node decl
    finish span

/-- Writes elements, one after the other. -/
def itemsOf : List Item → Emit Unit
  | [] => pure ()
  | i :: rest => do
    item i
    itemsOf rest

/-- `emit_script` and `emit_module`: writes a script or module. One without elements is marked
itself. -/
def program (p : Program) : Emit Unit := do
  leading p.span
  if p.items.isEmpty then markStart p.span
  match p.shebang with
  | some text =>
    put ("#!" ++ text)
    line
  | none => pure ()
  itemsOf p.items
  trailing p.span

end Print

/-- The written form of a program and its comments: `print_program` without the map. -/
def Program.written (p : Program) (comments : Comments) : Writer :=
  ((Print.program p).run { comments }).2

end LoopGuard
