import LoopGuard.Loop.Alias
import LoopGuard.Proofs.Syntax.Lexer.Scan

/-!
# The characters of names

What starts a name also continues one, and is neither a digit nor anything that separates tokens.
The names of an alias are among the names of a program.

Results:
* `CharSet.crosses_of_liesWithin`: when one set of characters is part of another.
* `Lexer.isNameStart_iff`, `Lexer.isNamePart_iff`: the characters of names.
* `Lexer.startsPlainly_of_isNameStart`: a name is read as it stands.
* `Alias.isNameStart_of_isStart`, `Alias.isNamePart_of_isPart`: the characters of aliases.
-/

namespace LoopGuard

namespace CharSet

/-- The bounds behind the stretches that end before a code point. -/
def dropBefore (lo : Nat) : List Nat → List Nat
  | l :: h :: bs => if l ≤ h ∧ h ≤ lo then dropBefore lo bs else l :: h :: bs
  | bs => bs

/-- Whether each stretch of the first bounds lies inside a stretch of the second. -/
def liesWithin : List Nat → List Nat → Bool
  | lo :: hi :: as, bs =>
    match dropBefore lo bs with
    | l :: h :: bs => l ≤ lo && hi ≤ h && liesWithin as (l :: h :: bs)
    | _ => false
  | [], _ => true
  | [_], _ => false

theorem crosses_cons_cons (lo hi : Nat) (bs : List Nat) (n : Nat) :
    crosses (lo :: hi :: bs) n = true ↔ lo ≤ n ∧ (n < hi ∨ crosses bs n = true) := by
  by_cases hlo : n < lo
  · simp [crosses, hlo, Nat.not_le.2 hlo]
  · by_cases hhi : n < hi
    · simp [crosses, hlo, hhi, Nat.not_lt.1 hlo]
    · simp [crosses, hlo, hhi, Nat.not_lt.1 hlo]

theorem crosses_dropBefore {lo n : Nat} (hn : lo ≤ n) (bs : List Nat) :
    crosses (dropBefore lo bs) n = true → crosses bs n = true := by
  fun_induction dropBefore lo bs with
  | case1 l h bs hle ih =>
    intro hcross
    exact (crosses_cons_cons l h bs n).2 ⟨by omega, .inr (ih hcross)⟩
  | case2 => exact id
  | case3 => exact id

theorem crosses_of_liesWithin {as bs : List Nat} {n : Nat} (h : liesWithin as bs = true)
    (hn : crosses as n = true) : crosses bs n = true := by
  fun_induction liesWithin as bs with
  | case1 lo hi as bs l h bs' hdrop ih =>
    simp only [Bool.and_eq_true, decide_eq_true_eq] at h
    obtain ⟨⟨hl, hh⟩, hmore⟩ := h
    obtain ⟨hlo, hhi | has⟩ := (crosses_cons_cons lo hi as n).1 hn
    · apply crosses_dropBefore hlo
      rw [hdrop]
      exact (crosses_cons_cons l _ bs' n).2 ⟨by omega, .inl (by omega)⟩
    · apply crosses_dropBefore hlo
      rw [hdrop]
      exact ih hmore has
  | case2 => cases h
  | case3 => cases hn
  | case4 => cases h

/-- What starts an identifier also continues one. -/
theorem idContinue_of_idStart {c : Char} (h : idStart.contains c = true) :
    idContinue.contains c = true :=
  crosses_of_liesWithin (by decide +kernel : liesWithin idStart.bounds idContinue.bounds = true) h

end CharSet

/-- What holds of all characters of a range holds of each. -/
theorem of_mem_range {p : Char → Prop} {c : Char} (lo n : Nat)
    (hp : ∀ k < n, p (Char.ofNat (lo + k)))
    (hlo : lo ≤ c.toNat) (hhi : c.toNat < lo + n) : p c := by
  have h := hp (c.toNat - lo) (by omega)
  rwa [Nat.add_sub_cancel' hlo, Char.ofNat_toNat] at h

theorem of_ascii {p : Char → Prop} {c : Char} (hp : ∀ k < 128, p (Char.ofNat k))
    (hc : c.toNat < 128) :
    p c := by
  have h := hp c.toNat hc
  rwa [Char.ofNat_toNat] at h

namespace Lexer

variable {c d : Char} {p : Char → Prop} {q : Char → Bool}

theorem of_isDigit (hp : ∀ k < 10, p (Char.ofNat (48 + k))) (hc : c.isDigit = true) : p c := by
  have hbounds : 48 ≤ c.val ∧ c.val ≤ 57 := by simpa [Char.isDigit] using hc
  exact of_mem_range 48 10 hp hbounds.1 (Nat.lt_succ_of_le hbounds.2)

/-- A class without digits. -/
theorem isDigit_eq_false (hq : ∀ k < 10, q (Char.ofNat (48 + k)) = false) (h : q c = true) :
    c.isDigit = false := by
  rw [Bool.eq_false_iff]
  intro hdigit
  rw [of_isDigit (p := (q · = false)) hq hdigit] at h
  cases h

theorem ne_of_isNameStart (h : isNameStart c = true) (hd : isNameStart d = false) : c ≠ d := by
  rintro rfl
  rw [hd] at h
  cases h

theorem isDigit_of_isNameStart (h : isNameStart c = true) : c.isDigit = false :=
  isDigit_eq_false (by decide) h

/-- The characters that separate tokens without ending a line, but for a range of spaces. -/
def blanks : List Char :=
  [' ', '\t', '\x0b', '\x0c', '\u0085', '\u00a0', '\ufeff', '\u1680', '\u202f', '\u205f', '\u3000']

/-- What holds of all blanks holds of each. -/
theorem of_isBlank (hlist : ∀ c ∈ blanks, p c) (hspaces : ∀ k < 11, p (Char.ofNat (0x2000 + k)))
    (h : isBlank c = true) : p c := by
  by_cases hspace : '\u2000' ≤ c ∧ c ≤ '\u200a'
  · exact of_mem_range 0x2000 11 hspaces hspace.1 (Nat.lt_succ_of_le hspace.2)
  · have hmem : c ∈ blanks := by
      have hspace' : ('\u2000' ≤ c && c ≤ '\u200a') = false := by simpa using hspace
      rw [isBlank, hspace', Bool.or_false] at h
      simpa [blanks, or_assoc] using h
    exact hlist c hmem

/-- The characters that end a line or start a comment, a marker or a line for the system. -/
def openers : List Char :=
  ['\n', '\r', '\u2028', '\u2029', '/', '<', '-', '=', '>', '|', '#', '\x00']

/-- The characters of a class without blanks and openers are read as they stand. -/
theorem startsPlainly_of (hblanks : blanks.any q = false)
    (hspaces : ∀ k < 11, ¬q (Char.ofNat (0x2000 + k)) = true) (hopeners : openers.any q = false)
    (h : q c = true) : startsPlainly c = true := by
  rw [List.any_eq_false] at hblanks hopeners
  have hblank : isBlank c = false := by
    rw [Bool.eq_false_iff]
    intro hblank
    exact of_isBlank hblanks hspaces hblank h
  have hnot : c ∉ openers := fun hc => hopeners c hc h
  simp only [openers, List.mem_cons, not_or] at hnot
  refine startsPlainly_iff.2 ⟨hblank, ?_, ?_⟩
  · simp [isLineBreak, hnot]
  · simp [hnot]

theorem startsPlainly_of_isNameStart (h : isNameStart c = true) : startsPlainly c = true :=
  startsPlainly_of (by decide +kernel) (by decide +kernel) (by decide +kernel) h

/-- The letters of ASCII are those of the tables, and so are its digits, with the low line. -/
theorem contains_ascii (hc : c.toNat < 128) : CharSet.idStart.contains c = c.isAlpha ∧
    CharSet.idContinue.contains c = (c.isAlphanum || c == '_') :=
  of_ascii (p := fun c => CharSet.idStart.contains c = c.isAlpha ∧
    CharSet.idContinue.contains c = (c.isAlphanum || c == '_')) (by decide +kernel) hc

theorem isNameStart_iff :
    isNameStart c = true ↔ c = '_' ∨ c = '$' ∨ CharSet.idStart.contains c = true := by
  have heq : isNameStart c = (c == '_' || c == '$' || CharSet.idStart.contains c) := by
    by_cases hascii : c.toNat < 128
    · rw [isNameStart, if_pos hascii, (contains_ascii hascii).1, Bool.or_assoc, Bool.or_comm]
    · have hmarks : c ≠ '_' ∧ c ≠ '$' := by
        constructor <;> rintro rfl <;> exact hascii (by decide)
      rw [isNameStart, if_neg hascii, beq_false_of_ne hmarks.1, beq_false_of_ne hmarks.2]
      rfl
  simp [heq, or_assoc]

theorem isNamePart_iff : isNamePart c = true ↔
    c = '_' ∨ c = '$' ∨ CharSet.idContinue.contains c = true ∨ c = '\u200c' ∨ c = '\u200d' := by
  have heq : isNamePart c = (c == '_' || c == '$' ||
      (CharSet.idContinue.contains c || c == '\u200c' || c == '\u200d')) := by
    by_cases hascii : c.toNat < 128
    · have hjoiners : c ≠ '\u200c' ∧ c ≠ '\u200d' := by
        constructor <;> rintro rfl <;> exact absurd hascii (by decide)
      rw [isNamePart, if_pos hascii, (contains_ascii hascii).2, beq_false_of_ne hjoiners.1,
        beq_false_of_ne hjoiners.2]
      cases c == '_' <;> cases c == '$' <;> simp
    · have hmarks : c ≠ '_' ∧ c ≠ '$' := by
        constructor <;> rintro rfl <;> exact hascii (by decide)
      rw [isNamePart, if_neg hascii, beq_false_of_ne hmarks.1, beq_false_of_ne hmarks.2]
      rfl
  simp [heq, or_assoc]

theorem isNamePart_of_isNameStart (h : isNameStart c = true) : isNamePart c = true := by
  rcases isNameStart_iff.1 h with hmark | hmark | hstart
  · exact isNamePart_iff.2 (.inl hmark)
  · exact isNamePart_iff.2 (.inr (.inl hmark))
  · exact isNamePart_iff.2 (.inr (.inr (.inl (CharSet.idContinue_of_idStart hstart))))

end Lexer

namespace Alias

open Lexer

variable {c : Char}

theorem isStart_iff : isStart c = true ↔
    c = '_' ∨ c = '$' ∨ (CharSet.alphabetic.contains c && CharSet.idStart.contains c) = true := by
  simp [isStart, or_assoc]

theorem isPart_iff : isPart c = true ↔ c = '_' ∨ c = '$' ∨
    ((CharSet.alphabetic.contains c || CharSet.numeric.contains c) &&
      CharSet.idContinue.contains c) = true := by
  simp [isPart, or_assoc]

theorem isNameStart_of_isStart (h : isStart c = true) : isNameStart c = true :=
  isNameStart_iff.2 ((isStart_iff.1 h).imp_right (.imp_right fun h => (Bool.and_eq_true_iff.1 h).2))

theorem isNamePart_of_isPart (h : isPart c = true) : isNamePart c = true :=
  isNamePart_iff.2 ((isPart_iff.1 h).imp_right
    (.imp_right fun h => .inl (Bool.and_eq_true_iff.1 h).2))

end Alias

end LoopGuard
