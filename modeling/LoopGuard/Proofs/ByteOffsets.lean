import LoopGuard.Proofs.Position
import Mathlib.Algebra.BigOperators.Group.List.Basic
import Mathlib.Algebra.GroupWithZero.Nat
import Mathlib.Data.List.DropRight

/-!
# Positions of bytes

A parser names places of a text by bytes. Lines are then looked up in a table of the bytes at which
they start, and columns are counted back to the last line feed. The table starts a line behind a
lone carriage return, where columns go on, and no line behind a line end that ends the text.

Looked up so, every character of a text has the position that counting from the start of the text
gives it, and positions come in the order of bytes. Nothing of this is promised behind the last
character: there the line is still that of the last character, as faults that are found at the end
of a text have it.

Results:
* `Position.byteIdx_eq`: the bytes in front of a place.
* `Position.countP_lineStartsFrom`: what a table of lines counts.
* `Position.lookedUp_eq_of`: the position that is looked up for a character is the one that is
  counted.
* `Position.line_lookedUp_concat`: the line that is looked up for the end of a text.
* `Position.of_front_le`: the numbers of a position fit where those of bytes fit.
* `Position.positions_in_byte_order`: positions come in the order of bytes.
-/

namespace LoopGuard

namespace Position

/-! ## Bytes -/

theorem bytes_nil : bytes [] = 0 := rfl

theorem bytes_cons (c : Char) (rest : List Char) :
    bytes (c :: rest) = c.utf8Size + bytes rest := rfl

theorem bytes_append (text text' : List Char) :
    bytes (text ++ text') = bytes text + bytes text' := by
  induction text with
  | nil => rw [List.nil_append, bytes_nil, Nat.zero_add]
  | cons c rest ih => rw [List.cons_append, bytes_cons, bytes_cons, ih, Nat.add_assoc]

theorem utf8ByteSize_eq (text : String) : text.utf8ByteSize = bytes text.toList := by
  have hlist (cs : List Char) : (String.ofList cs).utf8ByteSize = bytes cs := by
    induction cs with
    | nil => rfl
    | cons c rest ih =>
      rw [bytes_cons, ← ih, ← List.singleton_append, String.ofList_append,
        String.utf8ByteSize_append, ← String.singleton_eq_ofList, String.utf8ByteSize_singleton]
  rw [← hlist, String.ofList_toList]

/-- The characters in front of a place. -/
def front {text : String} (p : text.Pos) : List Char := (text.sliceTo p).copy.toList

variable {text : String} {p q : text.Pos}

theorem byteIdx_eq (p : text.Pos) : p.offset.byteIdx = bytes (front p) := by
  rw [p.splits.offset_eq_rawEndPos, front, ← utf8ByteSize_eq]
  rfl

theorem front_append (p : text.Pos) :
    front p ++ (text.sliceFrom p).copy.toList = text.toList := by
  rw [front, ← String.toList_append, ← p.splits.eq_append]

theorem take_front (p : text.Pos) : text.toList.take (front p).length = front p := by
  rw [← front_append p, List.take_left]

/-- A place that is not the end of the text has a character behind it. -/
theorem exists_behind (hp : p ≠ text.endPos) :
    ∃ c behind, text.toList = front p ++ c :: behind := by
  have hrest : (text.sliceFrom p).copy.toList ≠ [] := by
    rw [Ne, String.toList_eq_nil_iff, ← p.splits.eq_endPos_iff]
    exact hp
  obtain ⟨c, behind, hbehind⟩ := List.exists_cons_of_ne_nil hrest
  exact ⟨c, behind, by rw [← hbehind, front_append]⟩

theorem length_front_lt (hp : p ≠ text.endPos) : (front p).length < text.toList.length := by
  obtain ⟨c, behind, hsplit⟩ := exists_behind hp
  rw [hsplit, List.length_append, List.length_cons]
  omega

theorem length_front_lt_of_lt (h : p < q) : (front p).length < (front q).length := by
  obtain ⟨between, hbetween, hfront, -⟩ := (p.splits.lt_iff_exists_eq_append q.splits).1 h
  have hchars : 0 < between.toList.length := by
    rw [List.length_pos_iff, Ne, String.toList_eq_nil_iff]
    exact hbetween
  rw [front, front, hfront, String.toList_append, List.length_append]
  omega

/-! ## Lines and columns of bytes -/

/-- The position of a place by its byte: its line is found in the table, and its column goes back to
the last line feed. -/
def lookUp (text : String) (p : text.Pos) : Position where
  line := (lineTable text.toList).countP (· ≤ p.offset.byteIdx)
  column := (((front p).rtakeWhile (· ≠ '\n')).map utf16Width).sum

theorem lt_of_mem_lineStartsFrom {start b : Nat} {cs : List Char}
    (h : b ∈ lineStartsFrom start cs) : start < b := by
  induction cs generalizing start with
  | nil => cases h
  | cons c rest ih =>
    have hc := c.utf8Size_pos
    rw [lineStartsFrom] at h
    split_ifs at h with hends
    · rcases List.mem_cons.1 h with rfl | h
      · omega
      · have := ih h
        omega
    · have := ih h
      omega

/-- Of the bytes at which lines start, those up to a character are as many as the line ends in front
of it. -/
theorem countP_lineStartsFrom (start : Nat) (cs : List Char) (n : Nat) :
    (lineStartsFrom start cs).countP (· ≤ start + bytes (cs.take n)) = linesBefore cs n := by
  induction cs generalizing start n with
  | nil => cases n <;> rfl
  | cons c rest ih =>
    cases n with
    | zero =>
      rw [linesBefore_zero, List.countP_eq_zero]
      intro b hb
      have := lt_of_mem_lineStartsFrom hb
      simpa [bytes_nil] using this
    | succ n =>
      have hrest := ih (start + c.utf8Size) n
      rw [List.take_succ_cons, bytes_cons, ← Nat.add_assoc, linesBefore_cons, ← hrest,
        lineStartsFrom]
      split_ifs with hends
      · rw [List.countP_cons_of_pos (by simp), Nat.add_comm]
      · rw [Nat.zero_add]

/-- The line of a character in the table is the one that is counted. -/
theorem countP_lineTable {cs : List Char} {n : Nat} (h : bytes (cs.take n) < bytes cs) :
    (lineTable cs).countP (· ≤ bytes (cs.take n)) = 1 + linesBefore cs n := by
  have hcount := countP_lineStartsFrom 0 cs n
  rw [Nat.zero_add] at hcount
  rw [lineTable, List.countP_cons_of_pos (by simp), List.countP_filter, Nat.add_comm, ← hcount]
  congr 1
  refine List.countP_congr fun b _ => ?_
  simp only [Bool.and_eq_true, decide_eq_true_iff]
  omega

/-- Going back to the last line feed counts what is counted from the start of the text. -/
theorem sum_rtakeWhile (cs : List Char) :
    ((cs.rtakeWhile (· ≠ '\n')).map utf16Width).sum = unitsAfterLineFeed cs := by
  induction cs using List.reverseRecOn with
  | nil => rfl
  | append_singleton cs c ih =>
    by_cases hfeed : c = '\n'
    · subst hfeed
      rw [unitsAfterLineFeed_snoc_lineFeed, List.rtakeWhile_concat_neg _ _ _ (by decide)]
      rfl
    · rw [unitsAfterLineFeed_snoc cs hfeed, List.rtakeWhile_concat_pos _ _ _ (by simpa using hfeed),
        List.map_append, List.sum_append, ih]
      simp

/-- The position of a place by its byte is that of the offset of as many characters. -/
theorem lookUp_eq_lookedUp (p : text.Pos) :
    lookUp text p = lookedUp text.toList (front p).length := by
  rw [lookUp, lookedUp, byteIdx_eq, sum_rtakeWhile, take_front]

/-- A character has the position in the table that is counted for it. -/
theorem lookedUp_eq_of {cs : List Char} {n : Nat} (h : n < cs.length) :
    lookedUp cs n = of cs n := by
  have hlt : bytes (cs.take n) < bytes cs := by
    have hc := cs[n].utf8Size_pos
    conv_rhs => rw [← List.take_append_drop n cs, List.drop_eq_getElem_cons h]
    rw [bytes_append, bytes_cons]
    omega
  rw [lookedUp, countP_lineTable hlt, of]

/-- A character has the position by its byte that it has by its number. -/
theorem lookUp_eq_of (hp : p ≠ text.endPos) :
    lookUp text p = of text.toList (front p).length :=
  (lookUp_eq_lookedUp p).trans (lookedUp_eq_of (length_front_lt hp))

/-! ## The end of a text -/

/-- A line starts behind the last character of a text, or no later than with it. -/
theorem le_of_mem_lineStartsFrom_concat {start b : Nat} {cs : List Char} {c : Char}
    (h : b ∈ lineStartsFrom start (cs ++ [c])) :
    b ≤ start + bytes cs ∨ b = start + bytes (cs ++ [c]) := by
  induction cs generalizing start with
  | nil =>
    rw [List.nil_append, lineStartsFrom] at h
    right
    split_ifs at h
    · rw [List.nil_append, bytes_cons, bytes_nil]
      exact List.mem_singleton.1 h
    · cases h
  | cons d rest ih =>
    rw [List.cons_append, bytes_cons, bytes_cons, ← Nat.add_assoc, ← Nat.add_assoc]
    rw [List.cons_append, lineStartsFrom] at h
    split_ifs at h
    · rcases List.mem_cons.1 h with rfl | h
      · exact .inl (Nat.le_add_right _ _)
      · exact ih h
    · exact ih h

/-- The end of a text is on the line of the last character, whether or not this ends a line. -/
theorem line_lookedUp_concat (cs : List Char) (c : Char) :
    (lookedUp (cs ++ [c]) (cs.length + 1)).line = (of (cs ++ [c]) cs.length).line := by
  have hlength : (cs ++ [c]).length = cs.length + 1 := by simp
  have hlast : lookedUp (cs ++ [c]) cs.length = of (cs ++ [c]) cs.length :=
    lookedUp_eq_of (by omega)
  rw [← hlast]
  show (lineTable (cs ++ [c])).countP (· ≤ bytes ((cs ++ [c]).take (cs.length + 1))) =
    (lineTable (cs ++ [c])).countP (· ≤ bytes ((cs ++ [c]).take cs.length))
  rw [List.take_left, ← hlength, List.take_length]
  refine List.countP_congr fun b hb => ?_
  rw [decide_eq_true_iff, decide_eq_true_iff]
  have hbytes : bytes cs ≤ bytes (cs ++ [c]) := by
    rw [bytes_append]
    exact Nat.le_add_right _ _
  constructor
  · intro hend
    rcases List.mem_cons.1 hb with rfl | hb
    · exact Nat.zero_le _
    · obtain ⟨hstart, hlt⟩ := List.mem_filter.1 hb
      have hlt : b < bytes (cs ++ [c]) := of_decide_eq_true hlt
      have hcases := le_of_mem_lineStartsFrom_concat hstart
      omega
  · intro hle
    omega

/-! ## Bounds -/

theorem utf16Width_le (c : Char) : utf16Width c ≤ c.utf8Size := by
  have hc := c.utf8Size_pos
  unfold utf16Width
  split
  · omega
  · next hwide =>
    have hval : 65535 < c.toNat := by omega
    have hfour : c.utf8Size = 4 := Char.utf8Size_eq_four_iff.2 hval
    omega

/-- A line takes a byte at least. -/
theorem linesBefore_le (cs : List Char) (n : Nat) : linesBefore cs n ≤ bytes (cs.take n) := by
  induction cs generalizing n with
  | nil => cases n <;> exact Nat.le_refl _
  | cons c rest ih =>
    cases n with
    | zero => exact Nat.zero_le _
    | succ n =>
      have hc := c.utf8Size_pos
      have hrest := ih n
      rw [linesBefore_cons, List.take_succ_cons, bytes_cons]
      split_ifs <;> omega

/-- A column takes a byte at least. -/
theorem unitsAfterLineFeed_le (cs : List Char) : unitsAfterLineFeed cs ≤ bytes cs := by
  induction cs using List.reverseRecOn with
  | nil => exact Nat.le_refl _
  | append_singleton cs c ih =>
    by_cases hfeed : c = '\n'
    · rw [hfeed, unitsAfterLineFeed_snoc_lineFeed]
      exact Nat.zero_le _
    · have hwidth := utf16Width_le c
      rw [unitsAfterLineFeed_snoc cs hfeed, bytes_append, bytes_cons, bytes_nil]
      omega

/-- The numbers of a position are no greater than that of the bytes in front of it, so they fit in
the words that offsets fit in. -/
theorem of_le (cs : List Char) (n : Nat) :
    (of cs n).line ≤ 1 + bytes (cs.take n) ∧ (of cs n).column ≤ bytes (cs.take n) :=
  ⟨Nat.add_le_add_left (linesBefore_le cs n) 1, unitsAfterLineFeed_le (cs.take n)⟩

theorem of_front_le (p : text.Pos) :
    (of text.toList (front p).length).line ≤ 1 + p.offset.byteIdx ∧
      (of text.toList (front p).length).column ≤ p.offset.byteIdx := by
  have hle := of_le text.toList (front p).length
  rwa [take_front, ← byteIdx_eq] at hle

/-! ## The order of positions -/

theorem of_front_lt_of_lt (hq : q ≠ text.endPos) (h : p < q) :
    of text.toList (front p).length < of text.toList (front q).length :=
  of_lt_of (length_front_lt_of_lt h) (Nat.le_of_lt (length_front_lt hq))

/-- Positions come in the order of bytes. -/
theorem of_front_lt_iff (hp : p ≠ text.endPos) (hq : q ≠ text.endPos) :
    of text.toList (front p).length < of text.toList (front q).length ↔ p < q := by
  constructor
  · intro h
    rcases Std.lt_trichotomy p q with hlt | rfl | hlt
    · exact hlt
    · exact absurd h (lt_irrefl _)
    · exact absurd (lt_trans h (of_front_lt_of_lt hp hlt)) (lt_irrefl _)
  · exact of_front_lt_of_lt hq

/-- Of two characters of a text, named by the bytes at which they start, the later one has the later
position, whether it is looked up or counted; and the numbers of a position fit where those of bytes
fit. -/
theorem positions_in_byte_order (text : String) (p q : text.Pos) (hp : p ≠ text.endPos)
    (hq : q ≠ text.endPos) :
    (of text.toList (front p).length < of text.toList (front q).length ↔ p < q) ∧
    lookUp text p = of text.toList (front p).length ∧
    lookUp text q = of text.toList (front q).length ∧
    (lookUp text q).line ≤ 1 + q.offset.byteIdx ∧ (lookUp text q).column ≤ q.offset.byteIdx := by
  have hlookUp := lookUp_eq_of hq
  refine ⟨of_front_lt_iff hp hq, lookUp_eq_of hp, hlookUp, ?_⟩
  rw [hlookUp]
  exact of_front_le q

-- Why the end of the text is left out: the line feed there starts no line, but ends the column.
example : lookUp "a\n" ⟨⟨1⟩, by decide⟩ = ⟨1, 1⟩ ∧
    lookUp "a\n" (String.endPos "a\n") = ⟨1, 0⟩ := by decide

/-- A text with line ends of all kinds and characters of one to four bytes. -/
def allKinds : String := "é\r\n\r€😀\ra\nb"

/-- The place behind the first lone carriage return. -/
def allKinds.early : allKinds.Pos := ⟨⟨5⟩, by decide⟩

/-- The place behind the second lone carriage return. -/
def allKinds.late : allKinds.Pos := ⟨⟨13⟩, by decide⟩

theorem allKinds_in_order :
    lookUp allKinds allKinds.early = ⟨3, 1⟩ ∧ lookUp allKinds allKinds.late = ⟨4, 5⟩ ∧
      of allKinds.toList (front allKinds.early).length <
        of allKinds.toList (front allKinds.late).length := by
  have hpositions : lookUp allKinds allKinds.early = ⟨3, 1⟩ ∧
      lookUp allKinds allKinds.late = ⟨4, 5⟩ := by decide
  have hends : allKinds.early ≠ allKinds.endPos ∧ allKinds.late ≠ allKinds.endPos := by
    decide
  have hbytes : allKinds.early < allKinds.late := by decide
  obtain ⟨horder, -⟩ :=
    positions_in_byte_order allKinds allKinds.early allKinds.late hends.1 hends.2
  exact ⟨hpositions.1, hpositions.2, horder.2 hbytes⟩

end Position

end LoopGuard
