import LoopGuard.Syntax.Lexer.Next
import LoopGuard.Syntax.Tree

/-!
# Reading tokens

The state of the `Parser` of `swc_ecma_parser` over its tokens, and its elementary moves. Tokens are
read one at a time and no earlier than needed, because the context decides how a token is read; at
most one token behind the current one is looked at.

A fault is either noted (`emit_err`), and reading goes on, or it ends the reading of the construct
at hand.
-/

namespace LoopGuard

/-- A reader of tokens. -/
structure Reader where
  lexer : Lexer
  /-- The current token, once it has been read. -/
  current : Option PlacedToken := none
  /-- The token behind the current one, once it has been read. -/
  ahead : Option PlacedToken := none
  /-- Start of the last token taken. -/
  lastStart : Nat := 0
  /-- End of the last token taken. -/
  lastEnd : Nat := 0
  /-- Where an arrow function may start. -/
  arrowStart : Option Nat := none
  /-- Labels of the enclosing statements of this function, innermost first. -/
  labels : List String := []
  /-- Arrays and objects that end with a comma, by their start, with the offset of that comma. -/
  trailingCommas : List (Nat × Nat) := []
  /-- Something was read that only a module can hold. -/
  foundModuleItem : Bool := false
  deriving Inhabited

/-- A reading step. -/
abbrev Parse := EStateM Diagnostic Reader

/-- Whether a repetition goes on. -/
inductive Step (σ : Type) where
  | again (state : σ)
  | done (state : σ)

namespace Parse

/-! ## Repetition -/

/-- Repeats a step until it is done, `fuel` times at most. -/
def repeatFor (step : σ → Parse (Step σ)) : Nat → σ → Parse σ
  | 0, state => pure state
  | fuel + 1, state => do
    match ← step state with
    | .again state => repeatFor step fuel state
    | .done state => return state

/-- Repeats a step until it is done. A step that goes on has taken a token, so there are no more
repetitions than characters and tokens already read. -/
def loop (state : σ) (step : σ → Parse (Step σ)) : Parse σ := do
  let r ← get
  repeatFor step (r.lexer.source.size - r.lexer.pos + 4) state

/-- Whether both hold; the second is looked at only if the first does. -/
def both (p q : Parse Bool) : Parse Bool := do
  if ← p then q else return false

/-! ## Contexts -/

/-- The current context. -/
def context : Parse Context := return (← get).lexer.context

/-- Enters a context. Faults that count in modules become certain in a module. -/
def setContext (c : Context) : Parse Unit :=
  modify fun r =>
    let lexer := { r.lexer with context := c }
    { r with lexer :=
      if c.inModule then
        { lexer with faults := lexer.faults ++ lexer.moduleFaults, moduleFaults := #[] }
      else lexer }

/-- Runs a step in a changed context and returns to the present one, also if the step fails. -/
def within (change : Context → Context) (p : Parse α) : Parse α := do
  let outer ← context
  setContext (change outer)
  let result ← tryCatch (Except.ok <$> p) fun d => pure (Except.error d)
  setContext outer
  match result with
  | .ok a => return a
  | .error d => throw d

/-- Runs a step where `in` is an operator. -/
def allowingIn (p : Parse α) : Parse α := within ({ · with allowIn := true }) p

/-! ## Tokens -/

/-- Runs a scan on the source behind the tokens read so far. -/
def scan (s : Scan α) : Parse α := fun r =>
  match s r.lexer with
  | .ok a lexer => .ok a { r with lexer }
  | .error d lexer => .error d { r with lexer }

/-- The current token at its place, or none at the end of the source. -/
def placed : Parse (Option PlacedToken) := do
  let r ← get
  match r.current with
  | some t => return some t
  | none =>
    match r.ahead with
    | some t =>
      set { r with current := some t, ahead := none }
      return some t
    | none =>
      let t ← scan Lexer.next
      modify ({ · with current := t })
      return t

/-- The current token, or none at the end of the source. -/
def peek : Parse (Option Token) := return (← placed).map (·.token)

/-- The token behind the current one, at its place. -/
def placedAhead : Parse (Option PlacedToken) := do
  let _ ← placed
  match (← get).ahead with
  | some t => return some t
  | none =>
    let t ← scan Lexer.next
    modify ({ · with ahead := t })
    return t

/-- The token behind the current one. -/
def peekAhead : Parse (Option Token) := return (← placedAhead).map (·.token)

/-- Takes the current token. -/
def bump : Parse Unit := do
  match ← placed with
  | some t => modify ({ · with current := none, lastStart := t.lo, lastEnd := t.hi })
  | none => pure ()

/-- Whether a token is the given word or mark. -/
def isText (text : String) : Option Token → Bool
  | some (.word w) => w == text
  | some (.mark m) => m == text
  | _ => false

/-- Whether the current token is the given word or mark. -/
def isAt (text : String) : Parse Bool := return isText text (← peek)

/-- Whether the current token is one of the given words and marks. -/
def isAtAny (texts : List String) : Parse Bool := do
  let t ← peek
  return texts.any (isText · t)

/-- Whether the token behind the current one is the given word or mark. -/
def isAhead (text : String) : Parse Bool := return isText text (← peekAhead)

/-- Takes the current token if it is the given word or mark. -/
def eat (text : String) : Parse Bool := do
  if ← isAt text then
    bump
    return true
  else return false

/-- Whether the source has ended. -/
def atEnd : Parse Bool := return (← placed).isNone

/-- Whether a line break, or the end of the source, stands in front of the token behind. -/
def lineBreakAhead : Parse Bool := return ((← placedAhead).map (·.afterLineBreak)).getD true

/-- Whether a line break, or the end of the source, is what comes next. -/
def lineBreakBefore : Parse Bool := return ((← placed).map (·.afterLineBreak)).getD true

/-- Whether a statement can end here: at a semicolon, a closing brace, the end or a new line. -/
def atStatementEnd : Parse Bool := do
  if ← isAtAny [";", "\x7d"] then return true else lineBreakBefore

/-- Ends a statement, if one can end here. -/
def eatStatementEnd : Parse Bool := do
  if ← eat ";" then return true else atStatementEnd

/-- Whether a token is a word that can be a name in the present context. -/
def isName (t : Option Token) : Parse Bool := do
  match t with
  | some (.word w) => return !(← context).isReserved w
  | some (.escapedName _) => return true
  | _ => return false

/-! ## Places -/

/-- Start of the current token; at the end of the source, end of the last one. -/
def start : Parse Nat := do
  match ← placed with
  | some t => return t.lo
  | none => return (← get).lastEnd

/-- Start of the current token if it has been read, of the last one otherwise. -/
def here : Parse Nat := do
  let r ← get
  return (r.current.map (·.lo)).getD r.lastStart

/-- Start of the last token taken. -/
def lastStart : Parse Nat := return (← get).lastStart

/-- End of the last token taken. -/
def lastEnd : Parse Nat := return (← get).lastEnd

/-- From an offset to the end of the last token taken. -/
def spanFrom (lo : Nat) : Parse Span := return .source lo (← lastEnd)

/-- The last token taken. -/
def lastSpan : Parse Span := return .source (← lastStart) (← lastEnd)

/-! ## Faults -/

/-- Adds a fault as it is. -/
def add (d : Diagnostic) : Parse Unit :=
  modify fun r => { r with lexer := { r.lexer with faults := r.lexer.faults.push d } }

/-- Takes the current token if it is flawed, and notes its flaw. -/
def noteFlaw : Parse Unit := do
  match (← get).current with
  | some ⟨.flawed d _, _, _, _⟩ =>
    bump
    add d
  | _ => pure ()

/-- Notes a fault, behind the flaw of a current token that could not be read. -/
def note (offset : Nat) (fault : Fault) : Parse Unit := do
  let _ ← placed
  noteFlaw
  add ⟨offset, fault⟩

/-- Notes a fault that counts in modules alone. -/
def noteInModule (offset : Nat) (fault : Fault) : Parse Unit :=
  scan (Scan.noteInModule offset fault)

/-- Gives up, behind the flaw of a current token that could not be read. -/
def refuse (offset : Nat) (fault : Fault) : Parse α := do
  let _ ← placed
  noteFlaw
  throw ⟨offset, fault⟩

/-- The number of the first byte of an offset, counted from one. -/
def byteNumber (source : Array Char) (offset : Nat) : Nat :=
  (source.extract 0 offset).toList.foldl (fun n c => n + c.utf8Size) 1

/-- How a message shows the current token. -/
def shown : Parse String := do
  let token ← peek
  let source := (← get).lexer.source
  return (token.map (Token.shown (byteNumber source))).getD "<eof>"

/-- Gives up because another token was wanted. -/
def unexpected (wanted : String) : Parse α := do
  let got ← shown
  refuse (← here) (.unexpected got wanted)

/-- Takes the given word or mark, or gives up. -/
def expect (text : String) : Parse Unit := do
  if !(← eat text) then
    let got ← shown
    refuse (← here) (.expected text got)

/-- Ends a statement, or gives up. -/
def expectStatementEnd : Parse Unit := do
  if !(← eatStatementEnd) then
    let got ← shown
    refuse (← here) (.expected ";" got)

/-- Gives up at a token that could not be read. -/
def refuseFlaw : Parse Unit := do
  if let some (.flawed d _) ← peek then
    bump
    throw d

/-- The current token. Gives up at the end of the source and at a token that could not be read. -/
def need : Parse Token := do
  refuseFlaw
  match ← peek with
  | some t => return t
  | none => throw ⟨(← get).lexer.source.size, .unexpectedEnd⟩

end Parse

end LoopGuard
