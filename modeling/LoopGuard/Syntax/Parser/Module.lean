import LoopGuard.Syntax.Parser.Statement
import LoopGuard.Text.Blank

/-!
# Scripts and modules

Import and export declarations, and the statements of a whole text. Whether the text is a script or
a module shows only when such a declaration is met; faults that count in modules alone wait until
then. Attributes of imports are refused under the options of the program, and so are not read.
-/

namespace LoopGuard

namespace Parse

/-! ## Names of other modules -/

/-- Turns the text into that of a module. -/
def enterModule : Parse Unit := do
  if !(← context).inModule then setContext { ← context with inModule := true, strict := true }

/-- `parse_module_export_name`: a name as another module knows it, a word or a string. -/
def externalName : Parse ExternalName := do
  let lo ← start
  refuseFlaw
  match ← peek with
  | some (.string value raw) =>
    bump
    return .string (← spanFrom lo) value raw
  | some (.word w) | some (.escapedName w) =>
    bump
    return .word (← spanFrom lo) w
  | _ => unexpected "identifier or string"

/-- The string that names a module. -/
def moduleName : Parse ModuleName := do
  let lo ← start
  match ← need with
  | .string value raw =>
    bump
    let source := ⟨← spanFrom lo, value, raw⟩
    refuseFlaw
    return source
  | _ => unexpected "a string literal"

/-- Whether the text of a declaration, its last character and blanks apart, ends with a comma. -/
def endsInComma (span : Span) : Parse Bool := do
  let text := ((← get).lexer.source.extract span.lo span.hi).toList
  let front := text.dropLast.reverse.dropWhile CharSet.whiteSpace.contains
  return 3 ≤ text.length && front.head? == some ','

/-- `parse_from_clause_and_semi`: the word `from`, a module's name and the end of the statement. -/
def fromClause : Parse ModuleName := do
  expect "from"
  let source ← moduleName
  expectStatementEnd
  return source

/-- A name that an import declares. -/
def importedName : Parse Label :=
  within ({ · with inAsync := false, inGenerator := false }) (declaredName false)

/-! ## Imports -/

/-- `parse_import_specifier`: an entry of an import list. -/
def importSpecifier : Parse ImportSpecifier := do
  let lo ← start
  let imported ← externalName
  if ← eat "as" then
    let binding ← importedName
    return .named (← spanFrom lo) (some imported) binding
  match imported with
  | .word span w =>
    return .named (← spanFrom lo) none ⟨span, w⟩
  | .string span value _ => refuse span.lo (.importBindingString value)

/-- `parse_import`: an import declaration, or an expression statement that starts with `import`. -/
def importItem (g : Grammar) : Parse Item := do
  let lo ← start
  let next ← peekAhead
  if isText "(" next || isText "." next then
    let n ← g.expression
    let _ ← eatStatementEnd
    return .stmt (.expression (← spanFrom lo) n)
  enterModule
  bump
  refuseFlaw
  if let some (.string _ _) ← peek then
    let source ← moduleName
    expectStatementEnd
    return .imports (← spanFrom lo) .evaluation [] source false
  let (phase, first) ← importDefault
  let rest ← importList
  let source ← fromClause
  let span ← spanFrom lo
  return .imports span phase (first ++ rest) source (← endsInComma span)
where
  /-- The binding of the default value that may come first, behind the word for a phase, if there is
  one. -/
  importDefault : Parse (ImportPhase × List ImportSpecifier) := do
    if !(← isName (← peek)) then return (.evaluation, [])
    let word ← importedName
    let (phase, binding) ←
      match ImportPhase.ofWord? word.text with
      | none => pure (.evaluation, word)
      | some phase => do
        if ← isAtAny ["*", "\x7b"] then return (phase, [])
        let isPhase ← both (do isName (← peek)) (do
          if ← isAt "from" then isAhead "from" else return true)
        if isPhase then pure (phase, ← importedName) else pure (.evaluation, word)
    if !(← isAt "from") then expect ","
    return (phase, [.default binding.span binding])
  /-- The namespace or the list that may follow. -/
  importList : Parse (List ImportSpecifier) := do
    let lo ← start
    if ← eat "*" then
      expect "as"
      let binding ← importedName
      return [.namespace (← spanFrom lo) binding]
    else if ← eat "\x7b" then
      let specifiers ← loop ([] : List ImportSpecifier) fun specifiers => do
        if (← atEnd) || (← isAt "\x7d") then return .done specifiers
        let specifier ← importSpecifier
        if !(← isAt "\x7d") then expect ","
        return .again (specifier :: specifiers)
      expect "\x7d"
      return specifiers.reverse
    else return []

/-! ## Exports -/

/-- `parse_named_export_specifier`: an entry of an export list. -/
def exportSpecifier : Parse ExportSpecifier := do
  let lo ← start
  let name ← externalName
  let exported ← if ← eat "as" then some <$> externalName else pure none
  return .named (← spanFrom lo) name exported

/-- Notes what an export list cannot offer without naming a module. -/
def checkExported : List ExportSpecifier → Parse Unit
  | [] => pure ()
  | s :: rest => do
    match s with
    | .named _ (.word span w) _ =>
      if Word.unexportable.contains w then note span.lo (.exportNeedsFrom w)
    | .named _ (.string span _ _) _ => note span.lo .exportBindingString
    | .namespace _ _ => pure ()
    checkExported rest

/-- An export list behind the word `export`. -/
def exportList (lo : Nat) : Parse Item := do
  expect "\x7b"
  let specifiers ← loop ([] : List ExportSpecifier) fun specifiers => do
    if (← atEnd) || (← isAt "\x7d") then return .done specifiers
    let specifier ← exportSpecifier
    if !(← isAt "\x7d") then expect ","
    return .again (specifier :: specifiers)
  expect "\x7d"
  let specifiers := specifiers.reverse
  let source ← if ← isAt "from" then some <$> fromClause else pure none
  if source.isNone then
    checkExported specifiers
    let _ ← eatStatementEnd
  let span ← spanFrom lo
  return .exportList span specifiers source (← endsInComma span)

/-- An export of everything another module offers. -/
def exportStar (lo : Nat) : Parse Item := do
  let starStart ← lastStart
  if ← eat "as" then
    let exported ← externalName
    let specifier := ExportSpecifier.namespace (← spanFrom starStart) exported
    let source ← fromClause
    return .exportList (← spanFrom lo) [specifier] (some source) false
  let source ← fromClause
  return .exportAll (.source lo source.span.hi) source

/-- Whether an asynchronous function starts here. -/
def atAsyncFunction : Parse Bool :=
  both (isAt "async") (both (isAhead "function") (return !(← lineBreakAhead)))

/-- An export of a default value, behind the word `default`. -/
def exportDefault (g : Grammar) (lo : Nat) : Parse Item := do
  let declStart ← start
  if ← isAt "class" then
    let decl ← «class» g declStart false
    return .exportDefault (← spanFrom lo) decl
  if ← atAsyncFunction then
    bump
    let decl ← function g declStart true false false
    return .exportDefault (← spanFrom lo) decl
  if ← isAt "function" then
    let decl ← function g declStart false false false
    return .exportDefault (← spanFrom lo) decl
  let value ← allowingIn g.assignment
  expectStatementEnd
  return .exportValue (← spanFrom lo) value

/-- `parse_export`: an export declaration. -/
def exportItem (g : Grammar) : Parse Item := do
  enterModule
  let lo ← start
  bump
  let _ ← need
  if ← eat "*" then return ← exportStar lo
  if ← eat "default" then return ← exportDefault g lo
  let declStart ← start
  let isLet ← both (isAt "let") (return ((← peekAhead).map Token.followsLet).getD false)
  let decl : Option (Parse Node) ←
    if ← isAt "class" then pure (some («class» g declStart true))
    else if ← atAsyncFunction then
      bump
      pure (some (function g declStart true true false))
    else if ← isAt "function" then pure (some (function g declStart false true false))
    else if isLet || (← isAtAny ["var", "const"]) then pure (some (variableDeclaration g false))
    else pure none
  match decl with
  | some read =>
    let decl ← read
    return .exportDecl (← spanFrom lo) decl
  | none => exportList lo

/-! ## Whole texts -/

/-- An element of a script or module. -/
def item (g : Grammar) : Parse Item := do
  if ← isAt "import" then importItem g
  else if ← isAt "export" then exportItem g
  else .stmt <$> g.statement true true

/-- The elements of a script or module. Strict rules asked for by the first one hold in the rest. -/
def items (g : Grammar) : Parse (List Item) := do
  let outer ← context
  let (items, _) ← loop (([], true) : List Item × Bool) fun (items, isFirst) => do
    if ← atEnd then return .done (items, isFirst)
    let i ← item g
    if isFirst then
      if let .stmt s := i then
        if isUseStrict s then setContext { ← context with strict := true }
    return .again (i :: items, false)
  setContext outer
  return items.reverse

/-- Whether an element makes a text a module. -/
def isModuleItem : Item → Bool
  | .stmt _ => false
  | _ => true

/-- `parse_program`: a script or module. Which of them it is shows when its elements have been
read. -/
def program (g : Grammar) : Parse Program := do
  let lo ← start
  let shebang ←
    match ← peek with
    | some (.shebang text) =>
      bump
      pure (some text)
    | _ => pure none
  let read ← items g
  if (← get).foundModuleItem || read.any isModuleItem then enterModule
  return ⟨← spanFrom lo, shebang, read⟩

end Parse

end LoopGuard
