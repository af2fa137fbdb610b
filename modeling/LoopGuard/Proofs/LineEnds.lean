import LoopGuard.Proofs.Loop.Keys
import Mathlib.Algebra.GroupWithZero.Nat

/-!
# Line ends

Engines and source maps end a line at a line feed, at a carriage return, or at the two together, and
count columns from there. Here a text is taken apart into its lines, each with what ends it, and the
positions of the text are compared with that reading.

Lines are counted so for every text. Columns go on behind a lone carriage return: they are counted
from the line's start unless the line stands behind one.

Results:
* `Position.line_of`, `Position.column_of`: line and column in terms of the lines in front.
* `Position.of_eq_inLines_iff`: where a position is the one that engines use.
* `Transformer.sites_of_lines`: what the style of line ends can change about a loop.
* `Transformer.loneReturn_shifts_column`: a loop behind a lone carriage return.
-/

namespace LoopGuard

/-! ## Lines -/

/-- What ends a line. -/
inductive LineEnd where
  | feed
  | returnFeed
  | loneReturn
  deriving Repr, DecidableEq, Inhabited

/-- A line and what ends it. -/
structure Line where
  text : List Char
  ending : LineEnd
  deriving Repr, DecidableEq, Inhabited

/-- The lines of a text that have an end, and what stands behind the last end. -/
structure Lines where
  ended : List Line
  last : List Char
  deriving Repr, DecidableEq, Inhabited

namespace Lines

/-- The lines behind an empty one. -/
def behind (ending : LineEnd) (ls : Lines) : Lines := ⟨⟨[], ending⟩ :: ls.ended, ls.last⟩

/-- The lines with one more character in front. -/
def push (c : Char) : Lines → Lines
  | ⟨[], last⟩ => ⟨[], c :: last⟩
  | ⟨l :: rest, last⟩ => ⟨{ l with text := c :: l.text } :: rest, last⟩

/-- The lines of a text. -/
def of : List Char → Lines
  | [] => ⟨[], []⟩
  | '\r' :: '\n' :: rest => (of rest).behind .returnFeed
  | c :: rest =>
    if c = '\n' then (of rest).behind .feed
    else if c = '\r' then (of rest).behind .loneReturn
    else (of rest).push c

/-- The texts of the lines, without what ends them. -/
def texts (ls : Lines) : List (List Char) := ls.ended.map (·.text) ++ [ls.last]

/-- Whether the last line stands behind a lone carriage return. -/
def afterReturn (ls : Lines) : Bool := ls.ended.getLast?.any (·.ending == .loneReturn)

theorem length_ended_push (c : Char) (ls : Lines) :
    (ls.push c).ended.length = ls.ended.length := by
  obtain ⟨ended, last⟩ := ls
  cases ended <;> rfl

/-- A character that is not the carriage return in front of a line feed counts for itself. -/
theorem of_cons {c : Char} {rest : List Char} (h : ¬ (c = '\r' ∧ rest.head? = some '\n')) :
    of (c :: rest) =
      if c = '\n' then (of rest).behind .feed
      else if c = '\r' then (of rest).behind .loneReturn
      else (of rest).push c := by
  rw [of]
  rintro rest' rfl rfl
  exact h ⟨rfl, rfl⟩

end Lines

namespace Position

/-- The UTF-16 units of some text. -/
def units (text : List Char) : Nat := (text.map utf16Width).sum

/-- The position behind some lines as engines and source maps have it. -/
def inLines (ls : Lines) : Position := ⟨1 + ls.ended.length, units ls.last⟩

/-- What ends the lines of a text does not matter for the position behind them. -/
theorem inLines_eq_of_texts {ls ls' : Lines} (h : ls'.texts = ls.texts) :
    inLines ls' = inLines ls := by
  obtain ⟨hended, hlast⟩ := List.append_inj' h rfl
  have hlength : ls'.ended.length = ls.ended.length := by
    simpa using congrArg List.length hended
  rw [inLines, inLines, hlength, List.singleton_inj.1 hlast]

/-! ## Counting lines -/

/-- Whether an offset stands between the carriage return and the line feed of one line end. -/
def SplitsLineEnd (source : List Char) (offset : Nat) : Prop :=
  ∃ n, offset = n + 1 ∧ source[n]? = some '\r' ∧ source[n + 1]? = some '\n'

/-- A carriage return in front of a line feed is part of the line end that this is. -/
theorem length_ended_cons (c : Char) (rest : List Char) :
    (Lines.of (c :: rest)).ended.length =
      (if c = '\n' ∨ (c = '\r' ∧ rest.head? ≠ some '\n') then 1 else 0)
        + (Lines.of rest).ended.length := by
  by_cases hpair : c = '\r' ∧ rest.head? = some '\n'
  · obtain ⟨rfl, hhead⟩ := hpair
    obtain ⟨rest, rfl⟩ := List.head?_eq_some_iff.1 hhead
    have hfeed : Lines.of ('\n' :: rest) = (Lines.of rest).behind .feed :=
      Lines.of_cons (by simp)
    simp [Lines.of, hfeed, Lines.behind]
  · rw [Lines.of_cons hpair]
    split_ifs with hfeed hends hreturn hends hends <;>
      simp_all [Lines.behind, Lines.length_ended_push, Nat.add_comm]

/-- Each line end in front of an offset counts for a line. -/
theorem linesBefore_eq {source : List Char} {offset : Nat} (h : ¬ SplitsLineEnd source offset) :
    linesBefore source offset = (Lines.of (source.take offset)).ended.length := by
  induction source generalizing offset with
  | nil => cases offset <;> rfl
  | cons c rest ih =>
    cases offset with
    | zero => rfl
    | succ n =>
      have hrest : ¬ SplitsLineEnd rest n := by
        rintro ⟨m, rfl, hreturn, hfeed⟩
        exact h ⟨m + 1, rfl, hreturn, hfeed⟩
      rw [linesBefore_cons, List.take_succ_cons, length_ended_cons, ih hrest]
      cases n with
      | zero =>
        -- What stands behind the offset is not in front of it, but then it is no line feed.
        have hhead : c = '\r' → rest.head? ≠ some '\n' := by
          rintro rfl hfeed
          exact h ⟨0, rfl, rfl, by simpa [List.head?_eq_getElem?] using hfeed⟩
        by_cases hreturn : c = '\r' <;> simp_all
      | succ n => rw [List.head?_take, if_neg (Nat.succ_ne_zero n)]

/-! ## Counting columns -/

/-- The units that are counted up to the end of a line are carried over a lone carriage return. -/
def carry (counted : Nat) (l : Line) : Nat :=
  if l.ending = .loneReturn then counted + units l.text + 1 else 0

theorem foldl_units {source : List Char} {counted : Nat} :
    source.foldl (fun n c => if c = '\n' then 0 else n + utf16Width c) counted =
      (Lines.of source).ended.foldl carry counted + units (Lines.of source).last := by
  fun_induction Lines.of source generalizing counted with
  | case1 => rfl
  | case2 rest ih => simpa [Lines.behind, carry] using ih
  | case3 rest hpair ih => simpa [Lines.behind, carry] using ih
  | case4 rest hpair hfeed ih =>
    rw [List.foldl_cons, if_neg (by decide), ih]
    rfl
  | case5 c rest hpair hfeed hreturn ih =>
    rw [List.foldl_cons, if_neg hfeed, ih]
    obtain ⟨ended, last⟩ := Lines.of rest
    cases ended with
    | nil => simp [Lines.push, units, Nat.add_assoc]
    | cons l ended => simp [Lines.push, units, carry, Nat.add_assoc]

/-- Columns count from the last line feed, over the lone carriage returns behind it. -/
theorem unitsAfterLineFeed_eq (source : List Char) :
    unitsAfterLineFeed source =
      (Lines.of source).ended.foldl carry 0 + units (Lines.of source).last := foldl_units

/-- Nothing is carried over to a line unless it stands behind a lone carriage return. -/
theorem foldl_carry_eq_zero_iff (ls : Lines) :
    ls.ended.foldl carry 0 = 0 ↔ ls.afterReturn = false := by
  rcases List.eq_nil_or_concat ls.ended with hended | ⟨front, l, hended⟩
  · simp [Lines.afterReturn, hended]
  · rw [Lines.afterReturn, hended, List.concat_eq_append, List.foldl_concat,
      List.getLast?_concat, carry]
    by_cases h : l.ending = .loneReturn <;> simp [h]

/-! ## Positions -/

theorem line_of {source : List Char} {offset : Nat} (h : ¬ SplitsLineEnd source offset) :
    (of source offset).line = (inLines (Lines.of (source.take offset))).line := by
  rw [of, inLines, linesBefore_eq h]

theorem column_of (source : List Char) (offset : Nat) :
    (of source offset).column = (Lines.of (source.take offset)).ended.foldl carry 0
      + (inLines (Lines.of (source.take offset))).column := unitsAfterLineFeed_eq _

/-- A position is the one that engines use unless its line stands behind a lone carriage return. -/
theorem of_eq_inLines_iff {source : List Char} {offset : Nat} (h : ¬ SplitsLineEnd source offset) :
    of source offset = inLines (Lines.of (source.take offset)) ↔
      (Lines.of (source.take offset)).afterReturn = false := by
  rw [← foldl_carry_eq_zero_iff]
  have hcolumn := column_of source offset
  constructor
  · intro heq
    rw [heq] at hcolumn
    omega
  · intro hcarry
    rw [hcarry, Nat.zero_add] at hcolumn
    have hline := line_of h
    generalize of source offset = p at hline hcolumn ⊢
    generalize inLines (Lines.of (source.take offset)) = q at hline hcolumn ⊢
    obtain ⟨line, column⟩ := p
    obtain ⟨line', column'⟩ := q
    cases hline
    cases hcolumn
    rfl

/-- No character but a line feed stands inside a line end. -/
theorem not_splitsLineEnd {source : List Char} {offset : Nat} (h : source[offset]? ≠ some '\n') :
    ¬ SplitsLineEnd source offset := by
  rintro ⟨n, rfl, -, hfeed⟩
  exact h hfeed

end Position

/-! ## Loops -/

namespace Transformer

/-- The site of a loop is told by its file, its source map and its position. -/
theorem site_of_place_eq {t t' : Transformer} {lo lo' hi hi' : Nat} {head : LoopHead}
    {context : InsertionContext} (hfile : t'.file = t.file) (hmap : t'.inputMap = t.inputMap)
    (hplace : t'.protector.place lo' = t.protector.place lo) :
    t'.protector.site (.source lo' hi') head context =
      t.protector.site (.source lo hi) head context := by
  have hresolve : t'.protector.resolve = t.protector.resolve := by
    funext p
    simp only [protector, hmap]
  simp only [Protector.site, Span.lo_source, hplace, hresolve]
  rw [show t'.protector.file = t.protector.file from hfile]

/-- Where a loop is said to be, and what the style of the line ends in front of it can change about
it. Lines are counted as engines count them, and so are columns unless the loop's line stands behind
a lone carriage return: then the column is greater, by what is carried over from the lines in front.
One style for another changes nothing about a loop whose line does not stand behind one. -/
theorem sites_of_lines (t : Transformer) (lo : Nat) (hlo : t.code[lo]? ≠ some '\n') :
    let lines := Lines.of (t.code.take lo)
    (t.protector.place lo).line = 1 + lines.ended.length ∧
    (t.protector.place lo).column =
      lines.ended.foldl Position.carry 0 + Position.units lines.last ∧
    (t.protector.place lo = Position.inLines lines ↔ lines.afterReturn = false) ∧
    ∀ (t' : Transformer) (lo' : Nat), t'.code[lo']? ≠ some '\n' →
      t'.file = t.file → t'.inputMap = t.inputMap →
      (Lines.of (t'.code.take lo')).texts = lines.texts →
      lines.afterReturn = false → (Lines.of (t'.code.take lo')).afterReturn = false →
      ∀ hi hi' head context,
        t'.protector.site (.source lo' hi') head context =
          t.protector.site (.source lo hi) head context := by
  have hsplits := Position.not_splitsLineEnd hlo
  refine ⟨Position.line_of hsplits, Position.column_of _ _, Position.of_eq_inLines_iff hsplits, ?_⟩
  intro t' lo' hlo' hfile hmap htexts hreturn hreturn' hi hi' head context
  refine site_of_place_eq hfile hmap ?_
  have hplace : t.protector.place lo = Position.inLines (Lines.of (t.code.take lo)) :=
    (Position.of_eq_inLines_iff hsplits).2 hreturn
  have hplace' : t'.protector.place lo' = Position.inLines (Lines.of (t'.code.take lo')) :=
    (Position.of_eq_inLines_iff (Position.not_splitsLineEnd hlo')).2 hreturn'
  rw [hplace, hplace']
  exact Position.inLines_eq_of_texts htexts

/-- A loop behind a lone carriage return. -/
def loneReturn : TransformOptions where
  guardAlias := "lp"
  file := "a.js"
  code := "a;\rwhile (b) \x7b\x7d"

/-- The loop starts its line, and is said to be three columns further on. -/
theorem loneReturn_shifts_column :
    Position.inLines (Lines.of (loneReturn.code.toList.take 3)) = ⟨2, 0⟩ ∧
      ∃ out, (transform loneReturn).1 = .ok out ∧ out.loops.map (·.generated) = [⟨2, 3⟩] := by
  refine ⟨by decide, transform_positions (by decide +kernel) ?_⟩
  decide +kernel

/-- A text whose lines end in one style or another. -/
def styled (ending : String) : Transformer where
  guardAlias := ⟨"lp", []⟩
  file := "a.js"
  code := ("a;" ++ ending ++ "é; while (b) \x7b\x7d").toList
  inputMap := none
  emitsSourceMap := false

theorem styled_site_same :
    (styled "\n").protector.place 6 = ⟨2, 3⟩ ∧
      (styled "\r\n").protector.site (.source 7 20) (.while default) .sequence =
        (styled "\n").protector.site (.source 6 19) (.while default) .sequence := by
  obtain ⟨-, -, hplace, hsame⟩ := sites_of_lines (styled "\n") 6 (by decide)
  constructor
  · rw [hplace.2 (by decide)]
    decide
  · exact hsame (styled "\r\n") 7 (by decide) rfl rfl (by decide) (by decide) (by decide) _ _ _ _

end Transformer

end LoopGuard
