import LoopGuard.Position
import Mathlib.Data.List.Basic
import Mathlib.Data.Nat.Init

/-!
# Positions and keys tell places apart

Line and column of a position do not count from the same place: a lone carriage return ends a line,
but columns go on behind it until the next line feed. All the same, from one character of a text to
the next either the line grows, or the line stays and the column grows. So positions come in the
order of the offsets they are for, compared by line and then by column.

A key can be read back from its last two colons, whatever colons are in the name of the file.

Results:
* `Position.of_lt_of`: a later character has a later position.
* `Position.of_inj`: different characters have different positions.
* `LoopKey.of_inj`: different positions, or different files, have different keys.
-/

namespace LoopGuard

namespace Position

/-! ## The order of positions -/

/-- The order in which positions are read: by line, and within a line by column. -/
instance : LT Position := ⟨fun p q => p.line < q.line ∨ p.line = q.line ∧ p.column < q.column⟩

theorem lt_iff {p q : Position} :
    p < q ↔ p.line < q.line ∨ p.line = q.line ∧ p.column < q.column := Iff.rfl

theorem lt_irrefl (p : Position) : ¬ p < p := by
  intro h
  rw [lt_iff] at h
  omega

theorem lt_trans {p q r : Position} (hpq : p < q) (hqr : q < r) : p < r := by
  rw [lt_iff] at hpq hqr ⊢
  omega

/-! ## From one character to the next -/

theorem utf16Width_pos (c : Char) : 0 < utf16Width c := by
  unfold utf16Width
  split_ifs <;> omega

/-- A line feed ends a line, and so does a carriage return that no line feed follows. -/
theorem linesBefore_succ {source : List Char} {n : Nat} (h : n < source.length) :
    linesBefore source (n + 1) = linesBefore source n +
      if source[n] = '\n' ∨ (source[n] = '\r' ∧ source[n + 1]? ≠ some '\n') then 1 else 0 := by
  induction source generalizing n with
  | nil => cases h
  | cons c rest ih =>
    cases n with
    | zero =>
      rw [linesBefore_cons, linesBefore_zero, linesBefore_zero, List.head?_eq_getElem?]
      exact Nat.add_comm _ _
    | succ n =>
      have hn : n < rest.length := Nat.lt_of_succ_lt_succ h
      rw [linesBefore_cons, linesBefore_cons, ih hn, Nat.add_assoc]
      rfl

/-- A line feed takes columns back to zero; every other character makes them grow. -/
theorem unitsAfterLineFeed_take_succ {source : List Char} {n : Nat} (h : n < source.length) :
    unitsAfterLineFeed (source.take (n + 1)) =
      if source[n] = '\n' then 0
      else unitsAfterLineFeed (source.take n) + utf16Width source[n] := by
  rw [List.take_succ_eq_append_getElem h]
  by_cases hfeed : source[n] = '\n'
  · rw [if_pos hfeed, hfeed, unitsAfterLineFeed_snoc_lineFeed]
  · rw [if_neg hfeed, unitsAfterLineFeed_snoc _ hfeed]

theorem of_lt_of_succ {source : List Char} {n : Nat} (h : n < source.length) :
    of source n < of source (n + 1) := by
  have hwidth := utf16Width_pos source[n]
  rw [lt_iff]
  show 1 + linesBefore source n < 1 + linesBefore source (n + 1) ∨
    1 + linesBefore source n = 1 + linesBefore source (n + 1) ∧
      unitsAfterLineFeed (source.take n) < unitsAfterLineFeed (source.take (n + 1))
  rw [linesBefore_succ h, unitsAfterLineFeed_take_succ h]
  by_cases hends : source[n] = '\n' ∨ (source[n] = '\r' ∧ source[n + 1]? ≠ some '\n')
  · rw [if_pos hends]
    left
    omega
  · have hfeed : source[n] ≠ '\n' := fun hfeed => hends (.inl hfeed)
    rw [if_neg hends, if_neg hfeed]
    right
    omega

/-- Of two characters of a text the later one has the later position. -/
theorem of_lt_of {source : List Char} {m n : Nat} (h : m < n) (hn : n ≤ source.length) :
    of source m < of source n := by
  induction n, h using Nat.le_induction with
  | base => exact of_lt_of_succ hn
  | succ n hmn ih =>
    have hlast : of source n < of source (n + 1) := of_lt_of_succ hn
    exact lt_trans (ih (by omega)) hlast

/-- Two characters of a text do not have the same position. -/
theorem of_inj {source : List Char} {m n : Nat} (hm : m < source.length)
    (hn : n < source.length) : of source m = of source n ↔ m = n := by
  constructor
  · intro heq
    by_contra hne
    rcases Nat.lt_or_gt_of_ne hne with hlt | hlt
    · exact lt_irrefl _ (heq ▸ of_lt_of hlt (Nat.le_of_lt hn))
    · exact lt_irrefl _ (heq ▸ of_lt_of hlt (Nat.le_of_lt hm))
  · rintro rfl
    rfl

end Position

/-! ## Keys -/

namespace LoopKey

/-- A number can be read back from its digits. -/
theorem toDigits_inj {m n : Nat} (h : Nat.toDigits 10 m = Nat.toDigits 10 n) : m = n := by
  have hread := congrArg (Nat.ofDigitChars 10 · 0) h
  have hm : Nat.ofDigitChars 10 (Nat.toDigits 10 m) 0 = m :=
    Nat.ofDigitChars_toDigits (by omega) (by omega)
  have hn : Nat.ofDigitChars 10 (Nat.toDigits 10 n) 0 = n :=
    Nat.ofDigitChars_toDigits (by omega) (by omega)
  exact hm.symm.trans (hread.trans hn)

theorem colon_notMem_toDigits (n : Nat) : ':' ∉ Nat.toDigits 10 n := by
  intro h
  have hdigit : ':'.isDigit = true := Nat.isDigit_of_mem_toDigits (by omega) (by omega) h
  exact absurd hdigit (by decide)

/-- A list is split in one way by the last of its elements that are like this one. -/
theorem append_cons_inj_of_last {x : α} {as as' bs bs' : List α} (hbs : x ∉ bs) (hbs' : x ∉ bs') :
    as ++ x :: bs = as' ++ x :: bs' ↔ as = as' ∧ bs = bs' := by
  constructor
  · intro h
    rcases List.append_eq_append_iff.1 h with ⟨mid, has, hmid⟩ | ⟨mid, has, hmid⟩
    · cases mid with
      | nil => simp_all
      | cons y mid => simp_all
    · cases mid with
      | nil => simp_all
      | cons y mid => simp_all
  · rintro ⟨rfl, rfl⟩
    rfl

theorem toList_text_of (file : String) (p : Position) :
    (of file p).text.toList =
      (file.toList ++ ':' :: Nat.toDigits 10 p.line) ++ ':' :: Nat.toDigits 10 p.column := by
  simp [of, Position.text, Nat.toList_repr]

/-- Keys are the same only for the same position of the same file. -/
theorem of_inj {file file' : String} {p q : Position} :
    of file p = of file' q ↔ file = file' ∧ p = q := by
  constructor
  · intro h
    have htext : (of file p).text.toList = (of file' q).text.toList := by rw [h]
    rw [toList_text_of, toList_text_of] at htext
    obtain ⟨hfront, hcolumn⟩ := (append_cons_inj_of_last (colon_notMem_toDigits p.column)
      (colon_notMem_toDigits q.column)).1 htext
    obtain ⟨hfile, hline⟩ := (append_cons_inj_of_last (colon_notMem_toDigits p.line)
      (colon_notMem_toDigits q.line)).1 hfront
    obtain ⟨line, column⟩ := p
    obtain ⟨line', column'⟩ := q
    have hline : line = line' := toDigits_inj hline
    have hcolumn : column = column' := toDigits_inj hcolumn
    rw [String.toList_inj.1 hfile, hline, hcolumn]
    exact ⟨rfl, rfl⟩
  · rintro ⟨rfl, rfl⟩
    rfl

end LoopKey

end LoopGuard
