import LoopGuard.Syntax.Lexer.Literal
import LoopGuard.Text.Quoted

/-!
# The next token

Choosing what the next characters are, and keeping the braces and templates that say how to read on.
Whether a slash divides or opens a regular expression is decided by the parser, which asks for the
token again if it needs the other reading.
-/

namespace LoopGuard

namespace Lexer

open Scan

/-- The marks, longest first. -/
def marks : List String :=
  [">>>=", "...", "===", "!==", "**=", "<<=", ">>=", ">>>", "&&=", "||=", "??=", "=>", "==", "!=",
   "<=", ">=", "&&", "||", "??", "++", "--", "+=", "-=", "*=", "/=", "%=", "&=", "|=", "^=", "<<",
   ">>", "**", "\x7b", "\x7d", "(", ")", "[", "]", ";", ",", "<", ">", "+", "-", "*", "/", "%", "&",
   "|", "^", "!", "~", "?", ":", "=", ".", "@", "#", "`"]

/-- Whether the characters ahead are those of a text. -/
def isAhead (text : String) : Scan Bool := do
  let s ← get
  return (s.source.extract s.pos (s.pos + text.length)).toList == text.toList

/-- Steps over a comment that starts like an operator: `<!--`, or `-->` behind a line break. -/
def skipLegacyComment (start : Nat) : Scan Bool := do
  if ← isAhead "<!--" then
    advance 1
    skipLineComment 3
  else if (← get).lineBreak && (← isAhead "-->") then
    advance 3
    skipLineComment 0
  else return false
  skipTrivia
  noteInModule start .legacyComment
  return true

/-- Steps over the line between the two sides of a merge conflict, which is noted. -/
def skipConflictMiddle : Scan Bool := do
  if (← get).lineBreak && (← isAhead "=======") then
    note (← position) .conflictMarker
    skipLineComment 7
    skipTrivia
    return true
  else return false

/-- What opens, closes or divides a merge conflict and cannot be read over. -/
def conflictMarkers : List String := ["<<<<<<< ", ">>>>>>> ", "||||||| "]

/-- Notes a marker of a merge conflict and steps over its line, which is then a flawed token. -/
def refuseConflictMarker : Scan Unit := do
  let found ← conflictMarkers.findM? isAhead
  if (← get).lineBreak && found.isSome then
    let start ← position
    note start .conflictMarker
    skipLineComment 7
    skipTrivia
    fail start .conflictMarker

/-- Reads a mark, the longest one that the characters ahead start with. -/
def mark : Scan Token := do
  let start ← position
  let found ← marks.findM? isAhead
  match found with
  | some m =>
    advance m.length
    return .mark m
  | none =>
    let c := (← peek).getD ' '
    advance 1
    fail start (.unexpectedCharacter (Quoted.quotedChar c))

/-- Reads a token that does not stand in template text. A null character reads like the end of the
source. -/
def plainToken : Scan (Option Token) := do
  refuseConflictMarker
  let some c ← peek | return none
  if c == '\x00' then
    advance 1
    return none
  else if c == '"' || c == '\'' then some <$> string c
  else if c.isDigit then some <$> number
  else if c == '.' && ((← peekAt 1).map Char.isDigit).getD false then some <$> number
  else if isNameStart c || c == '\\' then some <$> word
  else some <$> mark

/-- Reads a token that stands in template text. Two stretches of text never follow each other. -/
def templateToken : Scan Token := do
  let afterText := match (← get).lastToken with
    | some (.chunk _ _) => true
    | _ => false
  match ← peek, ← peekAt 1, afterText with
  | some '`', _, true =>
    advance 1
    return .mark "`"
  | some '$', some '\x7b', true =>
    advance 2
    return .mark "$\x7b"
  | _, _, _ => templateText

/-- The line that may come first and names a program to run the source with. -/
def shebang : Scan (Option Token) := do
  if !(← isAhead "#!") then return none
  advance 2
  let start ← position
  repeatWhile do
    match ← peek with
    | none => return false
    | some c =>
      if isLineBreak c then return false
      advance 1
      return true
  return some (.shebang (← slice start (← position)))

/-- Whether the scan stands in template text. -/
def isInTemplate (s : Lexer) : Bool := s.nests.head? == some .template

/-- How a token that starts at an offset changes what encloses the text behind it. -/
def enter (lo : Nat) (s : Lexer) : Token → Lexer
  | .mark "\x7b" => { s with nests := .brace :: s.nests }
  | .mark "\x7d" => { s with nests := s.nests.tail }
  | .mark "$\x7b" => { s with nests := .substitution :: s.nests }
  | .mark "`" =>
    if isInTemplate s then { s with nests := s.nests.tail }
    else { s with nests := .template :: s.nests, templateStart := lo }
  | _ => s

/-- Reads the next token, its comments and blanks included, as far as it can be read. Answers where
it starts. -/
def tokenStart : Scan Nat := do
  let s ← get
  set { s with lineBreak := s.isFirst, isFirst := false }
  if isInTemplate s then position
  else do
    skipTrivia
    let start ← position
    repeatWhile do
      if ← skipLegacyComment start then return true
      skipConflictMiddle
    return start

/-- Reads what stands at the scan's position, behind blanks and comments. -/
def tokenBody : Scan (Option Token) := do
  if (← peek).isNone then return none
  if isInTemplate (← get) then some <$> templateToken else plainToken

/-- The next token, or none at the end of the source. What cannot be read is a flawed token; a
regular expression that cannot be read is tried again. -/
def next : Scan (Option PlacedToken) := do
  let s ← get
  match s.regexAt with
  | some start =>
    set { s with pos := start }
    finish start (← attempt do
      let token ← regex
      modify ({ · with regexAt := none })
      return some token)
  | none =>
    let first ← if s.isFirst then shebang else pure none
    match first with
    | some token => finish 0 (some token)
    | none =>
      let start ← tokenStart
      finish start (← attempt tokenBody)
where
  /-- Turns a failure into a flawed token, which ends where the reading of it did. -/
  attempt (read : Scan (Option Token)) : Scan (Option Token) := do
    try read catch d => do
      let s ← get
      let stop :=
        if d.fault.isPoint then d.offset
        else if d.fault == .conflictMarker then d.offset + 7
        else s.pos
      pure (some (.flawed d stop))
  /-- Places the token and settles the comments around it. -/
  finish (lo : Nat) : Option Token → Scan (Option PlacedToken)
    | none => do
      if (← peek).isNone then settleAtEnd
      return none
    | some token => do
      settlePending lo
      let s ← get
      set { enter lo s token with lastToken := some token, lastEnd := s.pos }
      return some ⟨token, lo, s.pos, s.lineBreak⟩

end Lexer

end LoopGuard
