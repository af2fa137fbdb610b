import LoopGuard.Proofs.Json.Reads

/-!
# The grammar of JSON text

What a text is made of, each piece told by the characters it starts in front of and those it leaves:
spaces, strings and what they stand for, numbers, and values. Escapes of strings are those of
UTF-16, where a character beyond sixteen bits is written as two units; a string as such may hold any
units.

Results:
* `Spaces.token`: what is read behind spaces.
* `IsString.of_unit`: what stands behind an escape.
* `IsValue.exists_cons`, `IsItems.exists_cons`: what values and items start with.
-/

namespace LoopGuard

namespace Json

open Reader

variable {cs cs' rest : List Char}

/-! ## Spaces -/

/-- Whether only spaces stand in front of some characters. -/
inductive Spaces : List Char → List Char → Prop
  | none {cs : List Char} : Spaces cs cs
  | more {c : Char} {cs rest : List Char} : isSpace c = true → Spaces cs rest →
    Spaces (c :: cs) rest

/-- Whether a value may end in front of these characters. -/
def IsEnd (cs : List Char) : Prop :=
  ∀ c ∈ cs.head?, isSpace c = true ∨ c = ',' ∨ c = ']' ∨ c = '\x7d'

namespace Spaces

theorem dropWhile (h : Spaces cs rest) (hrest : ∀ c ∈ rest.head?, isSpace c = false) :
    cs.dropWhile isSpace = rest := by
  induction h with
  | @none cs =>
    cases cs with
    | nil => rfl
    | cons c cs =>
      have hc : isSpace c = false := hrest c rfl
      exact List.dropWhile_cons_of_neg (by simp [hc])
  | more hc _ ih => rw [List.dropWhile_cons_of_pos hc, ih hrest]

/-- Spaces in front of a character, before and after they are skipped. -/
theorem of_skipped {c : Char} (h : Spaces cs (c :: rest)) (hc : isSpace c = false)
    (hcs' : cs' = cs ∨ cs' = cs.dropWhile isSpace) : Spaces cs' (c :: rest) := by
  rcases hcs' with rfl | rfl
  · exact h
  · rw [h.dropWhile (by simpa using hc)]
    exact .none

theorem token (h : Spaces cs rest) (hrest : ∀ c ∈ rest.head?, isSpace c = false) :
    Reads token cs rest.head? rest := by
  refine (reads_skipWhile isSpace cs).bind ?_
  rw [h.dropWhile hrest]
  exact reads_peek rest

theorem token_cons {c : Char} (h : Spaces cs (c :: rest)) (hc : isSpace c = false) :
    Reads Reader.token cs (some c) (c :: rest) :=
  h.token (by simpa using hc)

theorem token_nil (h : Spaces cs []) : Reads Reader.token cs Option.none [] :=
  h.token (by simp)

theorem length_le (h : Spaces cs rest) : rest.length ≤ cs.length := by
  induction h with
  | none => exact Nat.le_refl _
  | more _ _ ih =>
    rw [List.length_cons]
    omega

/-- Spaces in front of a comma or a closing bracket may stand behind a value. -/
theorem isEnd {c : Char} (h : Spaces cs (c :: rest)) (hc : c = ',' ∨ c = ']' ∨ c = '\x7d') :
    IsEnd cs := by
  intro d hd
  cases h with
  | none =>
    obtain rfl : c = d := by simpa using hd
    exact .inr hc
  | more hspace _ =>
    obtain rfl : _ = d := by simpa using hd
    exact .inl hspace

end Spaces

/-! ## Strings -/

/-- The unit of sixteen bits that four hexadecimal digits denote. -/
def codeUnit? (a b d e : Char) : Option Nat := do
  return (((← hexValue? a) * 16 + (← hexValue? b)) * 16 + (← hexValue? d)) * 16 + (← hexValue? e)

/-- Whether what follows an opening quote is a string, up to the closing quote. -/
inductive IsString : List Char → List Char → Prop
  | done {rest : List Char} : IsString ('"' :: rest) rest
  | plain {c : Char} {cs rest : List Char} : 0x20 ≤ c.toNat → c ≠ '"' → c ≠ '\\' →
    IsString cs rest → IsString (c :: cs) rest
  | short {l : Char} {cs rest : List Char} : (shortEscape? l).isSome = true → IsString cs rest →
    IsString ('\\' :: l :: cs) rest
  | unit {a b d e : Char} {cs rest : List Char} : (codeUnit? a b d e).isSome = true →
    IsString cs rest → IsString ('\\' :: 'u' :: a :: b :: d :: e :: cs) rest

/-- Whether what follows an opening quote is a string that stands for these characters, up to the
closing quote. -/
inductive StandsFor : List Char → List Char → List Char → Prop
  | done {rest : List Char} : StandsFor ('"' :: rest) [] rest
  | plain {c : Char} {cs s rest : List Char} : 0x20 ≤ c.toNat → c ≠ '"' → c ≠ '\\' →
    StandsFor cs s rest → StandsFor (c :: cs) (c :: s) rest
  | short {l c : Char} {cs s rest : List Char} : shortEscape? l = some c → StandsFor cs s rest →
    StandsFor ('\\' :: l :: cs) (c :: s) rest
  /-- A character of sixteen bits, by its unit. -/
  | unit {a b d e c : Char} {cs s rest : List Char} : codeUnit? a b d e = some c.toNat →
    StandsFor cs s rest → StandsFor ('\\' :: 'u' :: a :: b :: d :: e :: cs) (c :: s) rest
  /-- A character beyond sixteen bits, by its two units. -/
  | pair {a b d e a' b' d' e' c : Char} {cs s rest : List Char} : 0x10000 ≤ c.toNat →
    codeUnit? a b d e = some (0xD800 + (c.toNat - 0x10000) / 0x400) →
    codeUnit? a' b' d' e' = some (0xDC00 + (c.toNat - 0x10000) % 0x400) → StandsFor cs s rest →
    StandsFor
      ('\\' :: 'u' :: a :: b :: d :: e :: '\\' :: 'u' :: a' :: b' :: d' :: e' :: cs) (c :: s)
      rest

theorem StandsFor.isString {s : List Char} (h : StandsFor cs s rest) : IsString cs rest := by
  induction h with
  | done => exact .done
  | plain hc hquote hslash _ ih => exact .plain hc hquote hslash ih
  | short hl _ ih => exact .short (by rw [hl]; rfl) ih
  | unit hunit _ ih => exact .unit (by rw [hunit]; rfl) ih
  | pair _ hhigh hlow _ ih => exact .unit (by rw [hhigh]; rfl) (.unit (by rw [hlow]; rfl) ih)

/-- What stands behind the escape of a unit. -/
theorem IsString.of_unit {a b d e : Char}
    (h : IsString ('\\' :: 'u' :: a :: b :: d :: e :: cs) rest) : IsString cs rest := by
  cases h with
  | plain _ _ hslash _ => exact absurd rfl hslash
  | short hu _ => cases hu
  | unit _ h => exact h

theorem IsString.length_lt (h : IsString cs rest) : rest.length < cs.length := by
  induction h with
  | done => simp
  | _ => simp only [List.length_cons] at *; omega

/-! ## Numbers -/

/-- Whether at least one digit stands in front of some characters. -/
inductive Digits : List Char → List Char → Prop
  | one {c : Char} {rest : List Char} : c.isDigit = true → Digits (c :: rest) rest
  | more {c : Char} {cs rest : List Char} : c.isDigit = true → Digits cs rest →
    Digits (c :: cs) rest

theorem isSpace_of_isDigit {c : Char} (h : c.isDigit = true) : isSpace c = false := by
  rw [← Bool.not_eq_true]
  intro hspace
  simp only [isSpace, Bool.or_eq_true, beq_iff_eq] at hspace
  rcases hspace with ((rfl | rfl) | rfl) | rfl <;> cases h

/-- A whole number, without a zero in front of other digits. -/
inductive IsWhole : List Char → List Char → Prop
  | zero {rest : List Char} : IsWhole ('0' :: rest) rest
  | digits {c : Char} {cs rest : List Char} : c ≠ '0' → Digits (c :: cs) rest →
    IsWhole (c :: cs) rest

/-- A decimal point with digits behind it, or nothing. -/
inductive IsFraction : List Char → List Char → Prop
  | none {cs : List Char} : IsFraction cs cs
  | digits {cs rest : List Char} : Digits cs rest → IsFraction ('.' :: cs) rest

/-- The sign of an exponent, or nothing. -/
inductive IsSign : List Char → List Char → Prop
  | none {cs : List Char} : IsSign cs cs
  | sign {c : Char} {cs : List Char} : c = '+' ∨ c = '-' → IsSign (c :: cs) cs

/-- An exponent, or nothing. -/
inductive IsExponent : List Char → List Char → Prop
  | none {cs : List Char} : IsExponent cs cs
  | digits {c : Char} {cs cs' rest : List Char} : c = 'e' ∨ c = 'E' → IsSign cs cs' →
    Digits cs' rest → IsExponent (c :: cs) rest

/-- A number without a sign. -/
def IsUnsigned (cs rest : List Char) : Prop :=
  ∃ cs₁ cs₂, IsWhole cs cs₁ ∧ IsFraction cs₁ cs₂ ∧ IsExponent cs₂ rest

theorem IsUnsigned.exists_cons (h : IsUnsigned cs rest) :
    ∃ c ds, cs = c :: ds ∧ c.isDigit = true := by
  obtain ⟨cs₁, cs₂, hwhole, -, -⟩ := h
  cases hwhole with
  | zero => exact ⟨'0', _, rfl, by decide⟩
  | digits _ hdigits =>
    cases hdigits with
    | one hc => exact ⟨_, _, rfl, hc⟩
    | more hc _ => exact ⟨_, _, rfl, hc⟩

/-! ## Values -/

/-- The character that opens a container. -/
def Reader.Bracket.opener : Bracket → Char
  | .array => '['
  | .object => '\x7b'

/-- The character that closes a container. -/
def Reader.Bracket.closer : Bracket → Char
  | .array => ']'
  | .object => '\x7d'

/-- A value that is no container. -/
inductive IsScalar : List Char → List Char → Prop
  | null {rest : List Char} : IsScalar (['n', 'u', 'l', 'l'] ++ rest) rest
  | true {rest : List Char} : IsScalar (['t', 'r', 'u', 'e'] ++ rest) rest
  | false {rest : List Char} : IsScalar (['f', 'a', 'l', 's', 'e'] ++ rest) rest
  | number {cs rest : List Char} : IsUnsigned cs rest → IsScalar cs rest
  | negative {cs rest : List Char} : IsUnsigned cs rest → IsScalar ('-' :: cs) rest
  | string {cs rest : List Char} : IsString cs rest → IsScalar ('"' :: cs) rest

mutual

/-- A value. -/
inductive IsValue : List Char → List Char → Prop
  | scalar {cs rest : List Char} : IsScalar cs rest → IsValue cs rest
  | empty {cs rest : List Char} (b : Bracket) : Spaces cs (b.closer :: rest) →
    IsValue (b.opener :: cs) rest
  | container {cs rest : List Char} (b : Bracket) : IsItems b cs rest →
    IsValue (b.opener :: cs) rest

/-- The elements or members of a container, up to the closing bracket. -/
inductive IsItems : Bracket → List Char → List Char → Prop
  | last {b : Bracket} {cs cs₁ rest : List Char} : IsItem b cs cs₁ →
    Spaces cs₁ (b.closer :: rest) → IsItems b cs rest
  | more {b : Bracket} {cs cs₁ cs₂ rest : List Char} : IsItem b cs cs₁ → Spaces cs₁ (',' :: cs₂) →
    IsItems b cs₂ rest → IsItems b cs rest

/-- An element of an array or a member of an object, behind spaces. -/
inductive IsItem : Bracket → List Char → List Char → Prop
  | element {cs cs₁ rest : List Char} : Spaces cs cs₁ → IsValue cs₁ rest → IsItem .array cs rest
  | member {cs cs₁ cs₂ cs₃ cs₄ rest : List Char} : Spaces cs ('"' :: cs₁) → IsString cs₁ cs₂ →
    Spaces cs₂ (':' :: cs₃) → Spaces cs₃ cs₄ → IsValue cs₄ rest → IsItem .object cs rest

end

/-- What a value starts with. -/
theorem IsValue.exists_cons (h : IsValue cs rest) :
    ∃ c ds, cs = c :: ds ∧ isSpace c = false ∧ c ≠ ']' ∧ c ≠ '\x7d' := by
  cases h with
  | scalar h =>
    cases h with
    | null => exact ⟨'n', _, rfl, by decide⟩
    | true => exact ⟨'t', _, rfl, by decide⟩
    | false => exact ⟨'f', _, rfl, by decide⟩
    | negative _ => exact ⟨'-', _, rfl, by decide⟩
    | string _ => exact ⟨'"', _, rfl, by decide⟩
    | number h =>
      obtain ⟨c, ds, rfl, hc⟩ := h.exists_cons
      refine ⟨c, ds, rfl, isSpace_of_isDigit hc, ?_, ?_⟩
      all_goals
        rintro rfl
        cases hc
  | empty b _ => cases b <;> exact ⟨_, _, rfl, by decide⟩
  | container b _ => cases b <;> exact ⟨_, _, rfl, by decide⟩

/-- A value that starts with a quote is a string. -/
theorem IsValue.isString {ds : List Char} (h : IsValue cs rest) (hcs : cs = '"' :: ds) :
    IsString ds rest := by
  cases h with
  | scalar h =>
    cases h with
    | string h =>
      cases hcs
      exact h
    | number h =>
      obtain ⟨c, ds', rfl, hc⟩ := h.exists_cons
      cases hcs
      cases hc
    | _ => cases hcs
  | empty b _ => cases b <;> cases hcs
  | container b _ => cases b <;> cases hcs

/-- What items start with, behind spaces. -/
theorem IsItems.exists_cons {b : Bracket} (h : IsItems b cs rest) :
    ∃ c ds, Spaces cs (c :: ds) ∧ isSpace c = false ∧ c ≠ b.closer := by
  have hitem {rest : List Char} (h : IsItem b cs rest) :
      ∃ c ds, Spaces cs (c :: ds) ∧ isSpace c = false ∧ c ≠ b.closer := by
    cases h with
    | element hspaces hvalue =>
      obtain ⟨c, ds, rfl, hspace, hclose, -⟩ := hvalue.exists_cons
      exact ⟨c, ds, hspaces, hspace, hclose⟩
    | member hspaces _ _ _ _ => exact ⟨'"', _, hspaces, by decide, by decide⟩
  cases h with
  | last h _ => exact hitem h
  | more h _ _ => exact hitem h

end Json

end LoopGuard
