import LoopGuard.Syntax.Lexer.Basic

/-!
# Blanks and comments

Stepping over what separates tokens, as the lexer does with comments switched on, and attaching the
comments found there. A comment belongs to
the token before it when it stands on that token's line and the token is one that owns comments;
otherwise it waits for the token behind it.
-/

namespace LoopGuard

namespace Lexer

open Scan

/-- Attaches a comment to the token before it, or lets it wait for the one behind it. -/
def attach (waits : Bool) (c : Comment) : Scan Unit :=
  modify fun s =>
    if waits then { s with pending := s.pending.push c }
    else { s with comments :=
      { s.comments with trailing := s.comments.trailing.push ⟨s.lastEnd, c⟩ } }

/-- `skip_space`: steps over blanks and line breaks, noting whether there was a line break. -/
def skipBlanks : Scan Unit := repeatWhile do
  match ← peek with
  | none => return false
  | some c =>
    if isLineBreak c then
      modify fun s => { s with pos := s.pos + 1, lineBreak := true }
      return true
    else if isBlank c then
      advance 1
      return true
    else return false

/-- `skip_line_comment`: steps over a line comment whose opening has `width` characters. It waits
for the next token if it stands on a line of its own or behind an operator. -/
def skipLineComment (width : Nat) : Scan Unit := do
  let start ← position
  advance width
  let textStart ← position
  let s ← get
  let waits := s.lineBreak || !(s.lastToken.map Token.ownsLineComment).getD true
  repeatWhile do
    match ← peek with
    | none => return false
    | some c =>
      if isLineBreak c then return false
      advance 1
      return true
  let stop ← position
  attach waits ⟨.line, start, stop, (← slice textStart stop).toList⟩

/-- `skip_block_comment`: steps over a block comment. One that is followed by a semicolon belongs to
what comes before it; one that is not closed is noted at the end of the source. -/
def skipBlockComment : Scan Unit := do
  let start ← position
  let before ← get
  let waits := before.lineBreak || !(before.lastToken.map Token.ownsBlockComment).getD false
  advance 2
  repeatWhile do
    match ← peek, ← peekAt 1 with
    | none, _ => return false
    | some '*', some '/' => return false
    | some _, _ =>
      advance 1
      return true
  let textStop ← position
  if (← peek).isNone then
    note textStop .unterminatedComment
  else
    advance 2
    let stop ← position
    let text := (← slice (start + 2) textStop).toList
    skipBlanks
    let waits := waits && (← peek) != some ';'
    attach waits ⟨.block, start, stop, text⟩
    if text.any isLineBreak then modify fun s => { s with lineBreak := true }

/-- Steps over blanks and comments. -/
def skipTrivia : Scan Unit := repeatWhile do
  skipBlanks
  match ← peek, ← peekAt 1 with
  | some '/', some '/' =>
    skipLineComment 2
    return true
  | some '/', some '*' =>
    skipBlockComment
    return true
  | _, _ => return false

/-- Hands the waiting comments to the token that starts at `offset`. -/
def settlePending (offset : Nat) : Scan Unit :=
  modify fun s => { s with
    pending := #[]
    comments := { s.comments with
      leading := s.comments.leading ++ s.pending.map fun c => ⟨offset, c⟩ } }

/-- At the end of the source, hands the waiting comments to the last token, or to the start of the
source if there is none. -/
def settleAtEnd : Scan Unit :=
  modify fun s =>
    let settled := s.pending
    let s := { s with pending := #[] }
    if s.lastToken.isNone then
      { s with comments := { s.comments with
        leading := s.comments.leading ++ settled.map fun c => ⟨0, c⟩ } }
    else
      { s with comments := { s.comments with
        trailing := s.comments.trailing ++ settled.map fun c => ⟨s.lastEnd, c⟩ } }

end Lexer

end LoopGuard
