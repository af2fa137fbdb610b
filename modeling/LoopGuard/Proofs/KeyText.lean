import LoopGuard.Loop.Site
import LoopGuard.Proofs.Position
import LoopGuard.Proofs.Syntax.Lexer.Literals

/-!
# Keys that are read back

A key is the name of a file, a line and a column with colons between them, and the name may have
colons and digits of its own. Still no key is ambiguous: there are no colons in numerals, so the
last two colons of a key are those that it was made with, and a number has one numeral. Taken apart
at its last two colons, a key gives what it was made from, and every text that can be taken apart so
is a key.

Results:
* `LoopKey.splitLast_eq_some_iff`: where a text is split.
* `LoopKey.numeral?_eq_some_iff`: the numeral of a number.
* `LoopKey.read?_eq_some_iff`: a key is read as what it was made from.
* `LoopKey.unambiguous`: keys encode files and positions.
-/

namespace LoopGuard

namespace LoopKey

/-! ## The last mark -/

/-- A text taken apart at the last of its characters that are like this one. -/
def splitLast (mark : Char) : List Char → Option (List Char × List Char)
  | [] => none
  | c :: rest =>
    match splitLast mark rest with
    | some (front, behind) => some (c :: front, behind)
    | none => if c = mark then some ([], rest) else none

variable {mark : Char} {text front behind : List Char}

theorem splitLast_eq_none_iff : splitLast mark text = none ↔ mark ∉ text := by
  induction text with
  | nil => simp [splitLast]
  | cons c rest ih =>
    rw [splitLast, List.mem_cons, not_or, ← ih]
    cases splitLast mark rest with
    | some split => simp
    | none => simp [eq_comm (a := mark)]

theorem splitLast_append (front : List Char) (hbehind : mark ∉ behind) :
    splitLast mark (front ++ mark :: behind) = some (front, behind) := by
  induction front with
  | nil =>
    rw [List.nil_append, splitLast, splitLast_eq_none_iff.2 hbehind]
    exact if_pos rfl
  | cons c front ih => rw [List.cons_append, splitLast, ih]

/-- A text is split in one way by the last of its characters that are like this one. -/
theorem splitLast_eq_some_iff :
    splitLast mark text = some (front, behind) ↔
      text = front ++ mark :: behind ∧ mark ∉ behind := by
  constructor
  · intro h
    induction text generalizing front with
    | nil => cases h
    | cons c rest ih =>
      rw [splitLast] at h
      cases hrest : splitLast mark rest with
      | some split =>
        obtain ⟨front', behind'⟩ := split
        rw [hrest] at h
        cases h
        obtain ⟨rfl, hbehind⟩ := ih hrest
        exact ⟨rfl, hbehind⟩
      | none =>
        rw [hrest] at h
        dsimp only at h
        split_ifs at h with hc
        cases h
        exact ⟨by rw [hc, List.nil_append], splitLast_eq_none_iff.1 hrest⟩
  · rintro ⟨rfl, hbehind⟩
    exact splitLast_append front hbehind

/-! ## Numerals -/

instance (digits : List Char) : Decidable (Lexer.IsNumeral digits) :=
  decidable_of_iff (digits.all Char.isDigit = true ∧ digits ≠ [] ∧
      (digits.head? = some '0' → digits.length = 1))
    ⟨fun h => ⟨List.all_eq_true.1 h.1, h.2.1, h.2.2⟩,
      fun h => ⟨List.all_eq_true.2 h.isDigit, h.ne_nil, h.eq_zero⟩⟩

/-- The number that a numeral stands for. -/
def numeral? (digits : List Char) : Option Nat :=
  if Lexer.IsNumeral digits then some (Nat.ofDigitChars 10 digits 0) else none

theorem toDigits_value {d : Char} (hd : d.isDigit = true) :
    d.toNat - '0'.toNat < 10 ∧ Nat.toDigits 10 (d.toNat - '0'.toNat) = [d] := by
  have hval : 48 ≤ d.val ∧ d.val ≤ 57 := by simpa [Char.isDigit] using hd
  have hge : 48 ≤ d.toNat := hval.1
  have hle : d.toNat ≤ 57 := hval.2
  have hlt : d.toNat - 48 < 10 := by omega
  refine ⟨hlt, ?_⟩
  show Nat.toDigits 10 (d.toNat - 48) = [d]
  rw [Nat.toDigits_of_lt_base hlt, List.singleton_inj, ← Char.toNat_inj,
    Nat.toNat_digitChar_of_lt_ten hlt]
  omega

/-- Behind a number that is not zero every digit is one of the numeral. -/
theorem toDigits_ofDigitChars {n : Nat} (hn : 0 < n) {digits : List Char}
    (hdigits : ∀ d ∈ digits, d.isDigit = true) :
    Nat.toDigits 10 (Nat.ofDigitChars 10 digits n) = Nat.toDigits 10 n ++ digits := by
  induction digits generalizing n with
  | nil => rw [Nat.ofDigitChars_nil, List.append_nil]
  | cons d rest ih =>
    rw [List.forall_mem_cons] at hdigits
    obtain ⟨hlt, hd⟩ := toDigits_value hdigits.1
    rw [Nat.ofDigitChars_cons, ih (by omega) hdigits.2,
      ← Nat.toDigits_append_toDigits (by omega) hn hlt, hd, List.append_assoc,
        List.singleton_append]

/-- The numeral of a number is the one that it is written with. -/
theorem numeral?_eq_some_iff {digits : List Char} {n : Nat} :
    numeral? digits = some n ↔ digits = Nat.toDigits 10 n := by
  constructor
  · intro h
    unfold numeral? at h
    split_ifs at h with hnumeral
    rw [← Option.some.inj h]
    cases digits with
    | nil => exact absurd rfl hnumeral.ne_nil
    | cons d rest =>
      have hdigits := hnumeral.isDigit
      rw [List.forall_mem_cons] at hdigits
      obtain ⟨-, hd⟩ := toDigits_value hdigits.1
      rw [Nat.ofDigitChars_cons, Nat.mul_zero, Nat.zero_add]
      by_cases hzero : d = '0'
      · -- Only the numeral of zero has a zero in front.
        subst hzero
        have hlength := hnumeral.eq_zero rfl
        rw [List.length_cons, Nat.add_eq_right, List.length_eq_zero_iff] at hlength
        rw [hlength]
        rfl
      · have hpos : 0 < d.toNat - '0'.toNat := by
          refine Nat.pos_of_ne_zero fun hvalue => hzero ?_
          rw [hvalue] at hd
          exact (List.singleton_inj.1 hd).symm
        rw [toDigits_ofDigitChars hpos hdigits.2, hd, List.singleton_append]
  · rintro rfl
    have hnumeral := Lexer.isNumeral_repr n
    rw [Nat.toList_repr] at hnumeral
    rw [numeral?, if_pos hnumeral, Nat.ofDigitChars_ten_toDigits]

/-! ## Keys -/

/-- What a key is made from, if it is one: its last two colons are in front of the numerals of a
line and of a column. -/
def read? (k : LoopKey) : Option (String × Position) := do
  let (front, column) ← splitLast ':' k.text.toList
  let (file, line) ← splitLast ':' front
  let line ← numeral? line
  let column ← numeral? column
  return (String.ofList file, ⟨line, column⟩)

theorem read?_of (file : String) (p : Position) : (of file p).read? = some (file, p) := by
  have hcolumn : splitLast ':' (of file p).text.toList =
      some (file.toList ++ ':' :: Nat.toDigits 10 p.line, Nat.toDigits 10 p.column) := by
    rw [toList_text_of]
    exact splitLast_append _ (colon_notMem_toDigits _)
  have hline : splitLast ':' (file.toList ++ ':' :: Nat.toDigits 10 p.line) =
      some (file.toList, Nat.toDigits 10 p.line) :=
    splitLast_append _ (colon_notMem_toDigits _)
  have hnumeral (n : Nat) : numeral? (Nat.toDigits 10 n) = some n := numeral?_eq_some_iff.2 rfl
  simp [read?, hcolumn, hline, hnumeral, String.ofList_toList]

/-- A key is read as what it was made from, and nothing else is. -/
theorem read?_eq_some_iff {k : LoopKey} {file : String} {p : Position} :
    k.read? = some (file, p) ↔ k = of file p := by
  constructor
  · intro h
    simp only [read?, Option.bind_eq_bind, Option.bind_eq_some_iff] at h
    obtain ⟨⟨front, column⟩, hcolumn, ⟨file', line⟩, hline, m, hm, n, hn, heq⟩ := h
    cases heq
    dsimp only at hline hm hn
    rw [numeral?_eq_some_iff] at hm hn
    obtain ⟨htext, -⟩ := splitLast_eq_some_iff.1 hcolumn
    obtain ⟨hfront, -⟩ := splitLast_eq_some_iff.1 hline
    have hkey : k.text.toList = (of (String.ofList file') ⟨m, n⟩).text.toList := by
      rw [toList_text_of, htext, hfront, hm, hn, String.toList_ofList]
    exact congrArg LoopKey.mk (String.toList_inj.1 hkey)
  · rintro rfl
    exact read?_of file p

/-- Keys encode files and positions without ambiguity: taken apart at its last two colons a key
gives the file, the line and the column that it was made from, be there colons in the name of the
file or not, and so different files or positions have different keys. The key of a loop gives its
file and its place in the instrumented code. -/
theorem unambiguous :
    (∀ file p, (of file p).read? = some (file, p)) ∧
    (∀ k file p, read? k = some (file, p) ↔ k = of file p) ∧
    (∀ file file' p q, of file p = of file' q ↔ file = file' ∧ p = q) ∧
    ∀ file kind context generated original,
      (LoopSite.of file kind context generated original).key.read? = some (file, generated) :=
  ⟨read?_of, fun _ _ _ => read?_eq_some_iff, fun _ _ _ _ => of_inj,
    fun file _ _ generated _ => read?_of file generated⟩

example : read? ⟨"http://h:80/a.js:1:2:3"⟩ = some ("http://h:80/a.js:1", ⟨2, 3⟩) ∧
    read? ⟨":1:0"⟩ = some ("", ⟨1, 0⟩) ∧ read? ⟨"a.js:01:0"⟩ = none := by decide

end LoopKey

end LoopGuard
