import LoopGuard.Syntax.Comment
import LoopGuard.Syntax.Token
import LoopGuard.Text.Identifier

/-!
# Scanning

The state of the `Lexer` of `swc_ecma_parser` over a source text, and the moves it is made of. A
scan keeps what it has found so far also when it fails, because a failed token is one more thing the
reader of the tokens may step over.

Results:
* `repeatFor_succ`: how a bounded repetition unfolds.
-/

namespace LoopGuard

/-- What a closing brace closes, a block or a substitution; or the template text around a token. The
innermost one comes first in a list of them. -/
inductive Nest where
  | brace
  | substitution
  | template
  deriving Repr, DecidableEq, Inhabited

/-- A scan in progress: the source, the place reached, what the next token depends on, and what has
been found so far. -/
structure Lexer where
  source : Array Char
  pos : Nat := 0
  context : Context := {}
  /-- Nothing has been read yet. -/
  isFirst : Bool := true
  /-- A line break stands between the last token and `pos`. -/
  lineBreak : Bool := false
  /-- End of the last token. -/
  lastEnd : Nat := 0
  lastToken : Option Token := none
  nests : List Nest := []
  /-- Where the last template starts. -/
  templateStart : Nat := 0
  /-- Where a slash was read that has turned out to open a regular expression. -/
  regexAt : Option Nat := none
  /-- Comments that wait for the token they stand in front of. -/
  pending : Array Comment := #[]
  comments : Comments := .none
  /-- Faults that are certain. -/
  faults : Array Diagnostic := #[]
  /-- Faults if the text turns out to be a module. -/
  moduleFaults : Array Diagnostic := #[]
  deriving Inhabited

/-- A scanning step. One that fails keeps the state it failed in. -/
abbrev Scan := EStateM Diagnostic Lexer

namespace Scan

/-- Repeats a step while it answers true, `fuel` times at most. -/
def repeatFor (step : Scan Bool) : Nat → Scan Unit
  | 0 => pure ()
  | fuel + 1 => do
    if ← step then repeatFor step fuel

theorem repeatFor_succ (step : Scan Bool) (fuel : Nat) :
    repeatFor step (fuel + 1) = (do if ← step then repeatFor step fuel) := rfl

/-- Repeats a step while it answers true. A step that answers true has consumed a character, so
there are no more repetitions than characters. -/
def repeatWhile (step : Scan Bool) : Scan Unit := do
  let s ← get
  repeatFor step (s.source.size - s.pos + 2)

/-- Where the scan stands. -/
def position : Scan Nat := return (← get).pos

/-- The character `n` places ahead, or none behind the end of the source. -/
def peekAt (n : Nat) : Scan (Option Char) := do
  let s ← get
  return s.source[s.pos + n]?

/-- The next character. -/
def peek : Scan (Option Char) := peekAt 0

/-- Steps over `n` characters. -/
def advance (n : Nat) : Scan Unit := modify fun s => { s with pos := min (s.pos + n) s.source.size }

/-- Steps over the next character if it is `c`. -/
def eat (c : Char) : Scan Bool := do
  if (← peek) == some c then
    advance 1
    return true
  else return false

/-- The characters between two offsets. -/
def slice (lo hi : Nat) : Scan String := do
  let s ← get
  return String.ofList (s.source.extract lo hi).toList

/-- Notes a fault and goes on. -/
def note (offset : Nat) (fault : Fault) : Scan Unit :=
  modify fun s => { s with faults := s.faults.push ⟨offset, fault⟩ }

/-- Notes a fault that counts in modules alone. Until the text turns out to be one, it waits. -/
def noteInModule (offset : Nat) (fault : Fault) : Scan Unit := do
  if (← get).context.inModule then note offset fault
  else modify fun s => { s with moduleFaults := s.moduleFaults.push ⟨offset, fault⟩ }

/-- Notes a fault that counts under strict rules, which hold in every module. -/
def noteIfStrict (offset : Nat) (fault : Fault) : Scan Unit := do
  if (← get).context.strict then note offset fault else noteInModule offset fault

/-- Gives up on the token, which is then flawed. -/
def fail (offset : Nat) (fault : Fault) : Scan α := throw ⟨offset, fault⟩

end Scan

namespace Lexer

/-- The characters that separate tokens without ending a line, the byte order mark among them. -/
def isBlank (c : Char) : Bool :=
  c == ' ' || c == '\t' || c == '\x0b' || c == '\x0c' || c == '\u0085' || c == '\u00a0'
    || c == '\ufeff' || c == '\u1680' || ('\u2000' ≤ c && c ≤ '\u200a') || c == '\u202f'
    || c == '\u205f' || c == '\u3000'

/-- The characters a name can start with: letters, two marks, and beyond these the property
ID_Start. -/
def isNameStart (c : Char) : Bool :=
  if c.toNat < 128 then c.isAlpha || c == '_' || c == '$' else CharSet.idStart.contains c

/-- The characters a name can go on with: letters, digits, two marks, and beyond these the property
ID_Continue and the two joiners. -/
def isNamePart (c : Char) : Bool :=
  if c.toNat < 128 then c.isAlphanum || c == '_' || c == '$'
  else CharSet.idContinue.contains c || c == '\u200c' || c == '\u200d'

end Lexer

end LoopGuard
