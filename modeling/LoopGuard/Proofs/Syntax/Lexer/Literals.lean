import LoopGuard.Json.Quote
import LoopGuard.Proofs.Syntax.Lexer.Names

/-!
# Literals that are read back

A whole number written in decimal and a text quoted as JSON are literals. The scan reads from them
the digits and the text that were written, whatever the text is: each escape of the quoting is one
of the scan's escapes, and what is not escaped stands for itself.

Results:
* `Lexer.number_ok`: a whole number is read up to the mark behind it.
* `Lexer.escapeChar_cases`, `Lexer.escape_ok`: what quoting makes of a character, and how it is
  read.
* `Lexer.string_ok`: a quoted text is read up to its closing quote, as the text that was quoted.
-/

namespace LoopGuard

namespace Lexer

open Scan

variable {s : Lexer} {cs behind : List Char}

/-! ## Digits -/

theorem not_isDigitIn_underscore (base : Nat) : isDigitIn base '_' = false := by
  have hdigit : ('_' : Char).isDigit = false := by decide
  have hletter : (('a' ≤ '_' && '_' ≤ 'f') || ('A' ≤ '_' && '_' ≤ 'F')) = false := by decide
  rw [isDigitIn, hdigit, hletter, Bool.and_false, Bool.false_and]
  rfl

/-- Digits are read as long as that goes on, and up to the first other character. -/
theorem accumulate_ok {base start : Nat} {goesOn : List Char → Bool} {fuel : Nat} {read : List Char}
    (hs : s.rest = cs ++ behind) (hfuel : cs.length < fuel)
    (hcs : ∀ c ∈ cs, isDigitIn base c = true)
    (hgoes : ∀ r : List Char, r.length < read.length + cs.length → goesOn r = true)
    (hstop : goesOn (cs.reverse ++ read) = false ∨
      ∀ c ∈ behind.head?, c ≠ '_' ∧ isDigitIn base c = false) :
    digits.accumulate base goesOn start fuel read s =
      .ok (read.reverse ++ cs) (s.skip cs.length) := by
  induction cs generalizing s read fuel with
  | nil =>
    cases fuel with
    | zero => cases hfuel
    | succ fuel =>
      rw [digits.accumulate, List.append_nil]
      rw [List.nil_append] at hs
      -- The digits end because no more are wanted, or because what follows is none.
      rcases hstop with hstop | hstop
      · have hstop : goesOn read = false := hstop
        rw [hstop]
        rfl
      · cases hgo : goesOn read with
        | false => rfl
        | true =>
          rw [if_neg (by simp), bind_ok (peek_ok s), hs]
          cases hc : behind.head? with
          | none => rfl
          | some c =>
            obtain ⟨hunderscore, hdigit⟩ := hstop c hc
            show (if c == '_' then _ else if isDigitIn base c then _ else _ :
              Scan (List Char)) s = _
            rw [if_neg (by simpa using hunderscore), hdigit]
            rfl
  | cons c cs ih =>
    cases fuel with
    | zero => cases hfuel
    | succ fuel =>
      rw [List.forall_mem_cons] at hcs
      have hunderscore : c ≠ '_' := by
        rintro rfl
        rw [not_isDigitIn_underscore] at hcs
        cases hcs.1
      have hgo : goesOn read = true := hgoes read (by simp)
      rw [digits.accumulate, hgo, if_neg (by simp), bind_ok (peek_cons hs)]
      show (if c == '_' then _ else if isDigitIn base c then _ else _ : Scan (List Char)) s = _
      rw [if_neg (by simpa using hunderscore), if_pos hcs.1, bind_ok (advance_one hs)]
      rw [ih (rest_skip_one hs) (by simpa using hfuel) hcs.2]
      · simp [Nat.add_comm]
      · intro r hr
        apply hgoes r
        simp at hr ⊢
        omega
      · simpa using hstop

theorem digits_ok {base : Nat} {goesOn : List Char → Bool} (hs : s.rest = cs ++ behind)
    (hcs : ∀ c ∈ cs, isDigitIn base c = true)
    (hgoes : ∀ r : List Char, r.length < cs.length → goesOn r = true)
    (hstop : goesOn cs.reverse = false ∨
      ∀ c ∈ behind.head?, c ≠ '_' ∧ isDigitIn base c = false) :
    digits base goesOn s = .ok cs (s.skip cs.length) := by
  have hlength : cs.length + behind.length = s.source.size - s.pos := by
    rw [← length_rest, hs, List.length_append]
  unfold digits
  rw [bind_ok (position_ok s), bind_ok (get_ok s)]
  exact accumulate_ok hs (by omega) hcs (by simpa using hgoes) (by simpa using hstop)

/-! ## Whole numbers -/

theorem isDigitIn_ten {c : Char} (h : c.isDigit = true) : isDigitIn 10 c = true := by
  have hle : c.val ≤ 57 := (show _ ∧ _ by simpa [Char.isDigit] using h).2
  have hnat : c.toNat ≤ 57 := hle
  have hdigit : c.toNat - 48 < 10 := by omega
  simp [isDigitIn, h, hdigit]

/-- Only zero is written with a zero in front. -/
theorem head?_toDigits {n : Nat} (hn : n ≠ 0) : (Nat.toDigits 10 n).head? ≠ some '0' := by
  induction n using Nat.strongRecOn with
  | _ n ih =>
    by_cases hsmall : n < 10
    · rw [Nat.toDigits_of_lt_base hsmall]
      have hdigit : ∀ m < 10, m ≠ 0 → m.digitChar ≠ '0' := by decide
      simpa using hdigit n hsmall hn
    · have hfront := ih (n / 10) (by omega) (by omega)
      have hne : Nat.toDigits 10 (n / 10) ≠ [] := Nat.toDigits_ne_nil
      rw [Nat.toDigits_of_base_le (by omega) (by omega), List.head?_append, Option.or_of_isSome]
      · exact hfront
      · simp

/-- Digits as a whole number is written with. -/
structure IsNumeral (ds : List Char) : Prop where
  isDigit : ∀ d ∈ ds, d.isDigit = true
  ne_nil : ds ≠ []
  eq_zero : ds.head? = some '0' → ds.length = 1

theorem isNumeral_repr (n : Nat) : IsNumeral (Nat.repr n).toList := by
  rw [Nat.repr_eq_ofList_toDigits, String.toList_ofList]
  refine ⟨fun d hd => Nat.isDigit_of_mem_toDigits (by omega) (by omega) hd, Nat.toDigits_ne_nil, ?_⟩
  intro hzero
  by_cases hn : n = 0
  · subst hn
    rfl
  · exact absurd hzero (head?_toDigits hn)

/-- What may stand behind a whole number. -/
def EndsNumber (c : Char) : Prop := c = ',' ∨ c = '\x7d'

theorem not_isDigit_of_endsNumber {c : Char} (h : EndsNumber c) :
    c.isDigit = false ∧ c ≠ '_' ∧ isDigitIn 10 c = false ∧ isNameStart c = false := by
  rcases h with rfl | rfl <;> decide

theorem allDigits_ok (hs : s.rest = cs ++ behind) (hcs : IsNumeral cs)
    (hbehind : ∀ c ∈ behind.head?, EndsNumber c) :
    allDigits 10 s = .ok cs (s.skip cs.length) :=
  digits_ok hs (fun c hc => isDigitIn_ten (hcs.isDigit c hc)) (fun _ _ => rfl) <| .inr fun c hc =>
    have h := not_isDigit_of_endsNumber (hbehind c hc)
    ⟨h.2.1, h.2.2.1⟩

theorem refuseName_ok (hs : s.rest = behind) (hbehind : ∀ c ∈ behind.head?, EndsNumber c) :
    refuseName s = .ok () s := by
  refine then_ok (peek_ok s) ?_
  rw [hs]
  cases hc : behind.head? with
  | none => rfl
  | some c =>
    refine else_ok ?_ rfl
    rw [(not_isDigit_of_endsNumber (hbehind c hc)).2.2.2]
    decide

theorem decimalTail_ok (hs : s.rest = cs ++ behind) (hbehind : ∀ c ∈ behind.head?, EndsNumber c) :
    decimalTail s.pos (s.skip cs.length) = .ok (.number (String.ofList cs)) (s.skip cs.length) := by
  have hrest : (s.skip cs.length).rest = behind := rest_skip_of_append hs
  have hnot {c : Char} (hc : c ≠ ',' ∧ c ≠ '\x7d') : behind.head? ≠ some c := by
    intro h
    rcases hbehind c h with rfl | rfl
    · exact hc.1 rfl
    · exact hc.2 rfl
  refine then_ok (eat_other ?_) (then_ok (peek_ok _) (else_ok ?_ ?_))
  · rw [hrest]
    exact hnot (by decide)
  · rw [hrest]
    simpa using ⟨hnot (by decide), hnot (by decide)⟩
  · refine then_ok (refuseName_ok hrest hbehind) (then_ok (position_ok _) ?_)
    exact then_ok (slice_ok hs rfl) rfl

theorem number_ok (hs : s.rest = cs ++ behind) (hcs : IsNumeral cs)
    (hbehind : ∀ c ∈ behind.head?, EndsNumber c) :
    number s = .ok (.number (String.ofList cs)) (s.skip cs.length) := by
  have hrest : (s.skip cs.length).rest = behind := rest_skip_of_append hs
  have hhead : s.rest.head? = cs.head? := by
    rw [hs, List.head?_append, Option.or_of_isSome]
    simpa using hcs.ne_nil
  have hpoint : cs.head? ≠ some '.' := fun h => by
    have hdigit := hcs.isDigit '.' (List.mem_of_mem_head? h)
    revert hdigit
    decide
  have hmarked {c : Char} (hc : c ≠ ',' ∧ c ≠ '\x7d') :
      cs.head? = some '0' → s.rest[1]? ≠ some c := by
    intro hzero hbad
    have hlength := hcs.eq_zero hzero
    rw [hs, List.getElem?_append_right (by omega), hlength, ← List.head?_eq_getElem?] at hbad
    rcases hbehind c hbad with rfl | rfl
    · exact hc.1 rfl
    · exact hc.2 rfl
  have hletter : behind.head? ≠ some 'n' := fun h => by
    rcases hbehind 'n' h with h | h <;> revert h <;> decide
  have hplain : (do
      let ds ← allDigits 10
      if ← eat 'n' then return .bigint (← slice s.pos (← position))
      let isLegacy := ds.head? == some '0' && (← position) > s.pos + 1 && NumberText.isFinite ds
      if !isLegacy then decimalTail s.pos
      else if ds.all (isDigitIn 8) then
        let token ← numberFrom s.pos
        noteIfStrict s.pos .legacyOctal
        return token
      else
        noteIfStrict s.pos .legacyDecimal
        decimalTail s.pos : Scan Token) s =
          .ok (.number (String.ofList cs)) (s.skip cs.length) := by
    refine then_ok (allDigits_ok hs hcs hbehind) (then_ok (eat_other (by rwa [hrest])) ?_)
    refine else_ok Bool.false_ne_true
      (then_ok (position_ok _) (if_ok ?_ (decimalTail_ok hs hbehind)))
    have hlegacy : ¬ (cs.head? = some '0' ∧ s.pos + cs.length > s.pos + 1) := fun h => by
      have hlength := hcs.eq_zero h.1
      omega
    have hpos : (s.skip cs.length).pos = s.pos + cs.length := rfl
    simp only [hpos]
    grind
  refine then_ok (position_ok s) (then_ok (peek_ok s) (then_ok (peekAt_ok s 1) ?_))
  rw [hhead]
  generalize cs.head? = c at hpoint hmarked
  generalize s.rest[1]? = d at hmarked
  -- A point comes first in no whole number, and a letter for a base second in none.
  split
  all_goals try exact absurd rfl hpoint
  all_goals try exact absurd rfl (hmarked (by decide) rfl)
  exact hplain

/-! ## Strings -/

/-- An escape of four hexadecimal digits for a control character. -/
theorem hexOfWidth_ok {n : Nat} (hn : n < 0x20)
    (hs : s.rest = ['0', '0', Json.hexDigit (n / 16), Json.hexDigit (n % 16)] ++ behind) :
    hexOfWidth 4 s = .ok (some n) (s.skip 4) := by
  have hvalue : ∀ n < 0x20, NumberText.natural 16
      ['0', '0', Json.hexDigit (n / 16), Json.hexDigit (n % 16)] = n := by decide
  have hdigits : ∀ n < 0x20,
      ['0', '0', Json.hexDigit (n / 16), Json.hexDigit (n % 16)].all (isDigitIn 16) = true := by
    decide
  refine then_ok (digits_ok hs (List.all_eq_true.1 (hdigits n hn)) ?_ (.inl rfl)) ?_
  · intro r hr
    simpa using hr
  · simp only [List.length_cons, List.length_nil]
    show EStateM.Result.ok (some (NumberText.natural 16 _)) _ = _
    rw [hvalue n hn]

theorem unicodeEscape_ok {c : Char} (hc : c.toNat < 0x20)
    (hs : s.rest =
      ['u', '0', '0', Json.hexDigit (c.toNat / 16), Json.hexDigit (c.toNat % 16)] ++ behind) :
    unicodeEscape s = .ok [c] (s.skip 5) := by
  have hrest : (s.skip 1).rest =
      ['0', '0', Json.hexDigit (c.toNat / 16), Json.hexDigit (c.toNat % 16)] ++ behind :=
    rest_skip_one hs
  have hbrace : (s.skip 1).rest.head? ≠ some '\x7b' := by
    rw [hrest]
    simp
  refine then_ok (advance_one hs) (then_ok (eat_other hbrace) (then_ok (position_ok _) ?_))
  refine else_ok Bool.false_ne_true (then_ok (hexOfWidth_ok hc hrest) ?_)
  refine else_ok (by omega) (if_ok ?_ ?_)
  · exact c.valid
  · show EStateM.Result.ok [Char.ofNat c.toNat] _ = _
    rw [Char.ofNat_toNat, skip_skip]

/-- The characters that a quoted string writes with a letter or mark of their own behind a
backslash. -/
def shortEscapes : List (Char × Char) :=
  [('"', '"'), ('\\', '\\'), ('\x08', 'b'), ('\t', 't'), ('\n', 'n'), ('\x0c', 'f'), ('\r', 'r')]

/-- How a character is written in a quoted string. -/
theorem escapeChar_cases (c : Char) :
    (Json.escapeChar c = [c] ∧ c ∉ ['"', '\\', '\n', '\r'])
      ∨ (∃ d, (c, d) ∈ shortEscapes ∧ Json.escapeChar c = ['\\', d])
      ∨ (c.toNat < 0x20 ∧ Json.escapeChar c =
          ['\\', 'u', '0', '0', Json.hexDigit (c.toNat / 16), Json.hexDigit (c.toNat % 16)]) := by
  by_cases hshort : c ∈ shortEscapes.map Prod.fst
  · simp only [shortEscapes, List.map_cons, List.map_nil, List.mem_cons, List.not_mem_nil,
      or_false] at hshort
    rcases hshort with rfl | rfl | rfl | rfl | rfl | rfl | rfl
    all_goals exact .inr (.inl ⟨_, by decide, rfl⟩)
  · simp only [shortEscapes, List.map_cons, List.map_nil, List.mem_cons, List.not_mem_nil,
      or_false, not_or] at hshort
    obtain ⟨hquote, hslash, hback, htab, hline, hfeed, hreturn⟩ := hshort
    by_cases hcontrol : c.toNat < 0x20
    · refine .inr (.inr ⟨hcontrol, ?_⟩)
      simp [Json.escapeChar, hquote, hslash, hback, htab, hline, hfeed, hreturn, hcontrol]
    · refine .inl ⟨?_, by simp [hquote, hslash, hline, hreturn]⟩
      simp [Json.escapeChar, hquote, hslash, hback, htab, hline, hfeed, hreturn, hcontrol]

theorem escapeChar_ne_nil (c : Char) : Json.escapeChar c ≠ [] := by
  rcases escapeChar_cases c with ⟨h, -⟩ | ⟨d, -, h⟩ | ⟨-, h⟩ <;> simp [h]

theorem escape_short {c d : Char} (hcd : (c, d) ∈ shortEscapes)
    (hs : s.rest = '\\' :: d :: behind) :
    escape false s = .ok [c] (s.skip 2) := by
  have hadvance : advance 1 (s.skip 1) = .ok () (s.skip 2) := advance_one (rest_skip_one hs)
  unfold shortEscapes at hcd
  simp only [List.mem_cons, List.not_mem_nil, Prod.mk.injEq, or_false] at hcd
  refine then_ok (position_ok s)
    (then_ok (advance_one hs) (then_ok (peek_cons (rest_skip_one hs)) ?_))
  rcases hcd with ⟨rfl, rfl⟩ | ⟨rfl, rfl⟩ | ⟨rfl, rfl⟩ | ⟨rfl, rfl⟩ | ⟨rfl, rfl⟩ |
    ⟨rfl, rfl⟩ | ⟨rfl, rfl⟩
  all_goals exact then_ok hadvance rfl

theorem escape_control {c : Char} (hc : c.toNat < 0x20)
    (hs : s.rest =
      ['\\', 'u', '0', '0', Json.hexDigit (c.toNat / 16), Json.hexDigit (c.toNat % 16)] ++ behind) :
    escape false s = .ok [c] (s.skip 6) := by
  have hrest := rest_skip_one hs
  refine then_ok (position_ok s) (then_ok (advance_one hs) (then_ok (peek_cons hrest) ?_))
  exact try_ok (unicodeEscape_ok hc hrest)

theorem escape_ok {c : Char} (hc : Json.escapeChar c ≠ [c])
    (hs : s.rest = Json.escapeChar c ++ behind) :
    escape false s = .ok [c] (s.skip (Json.escapeChar c).length) := by
  rcases escapeChar_cases c with ⟨h, -⟩ | ⟨d, hd, h⟩ | ⟨hctl, h⟩
  · exact absurd h hc
  · rw [h] at hs ⊢
    exact escape_short hd hs
  · rw [h] at hs ⊢
    exact escape_control hctl hs

/-- The characters of a quoted string are read up to the closing quote. -/
theorem stringText_ok {fuel : Nat} (parts : List (List Char))
    (hs : s.rest = cs.flatMap Json.escapeChar ++ '"' :: behind) (hfuel : cs.length < fuel) :
    string.accumulate '"' fuel parts s =
      .ok (parts.reverse.flatten ++ cs) (s.skip (cs.flatMap Json.escapeChar).length) := by
  induction cs generalizing s parts fuel with
  | nil =>
    cases fuel with
    | zero => cases hfuel
    | succ fuel =>
      refine then_ok (peek_cons hs) (if_ok rfl ?_)
      rw [List.append_nil]
      rfl
  | cons c cs ih =>
    cases fuel with
    | zero => cases hfuel
    | succ fuel =>
      have hs : s.rest = Json.escapeChar c ++ (cs.flatMap Json.escapeChar ++ '"' :: behind) := by
        rw [hs, List.flatMap_cons, List.append_assoc]
      have hmore := ih ([c] :: parts) (rest_skip_of_append hs) (Nat.lt_of_succ_lt_succ hfuel)
      rw [skip_skip] at hmore
      rw [List.flatMap_cons, List.length_append]
      rw [List.reverse_cons, List.flatten_append, List.append_assoc] at hmore
      rw [← show [[c]].flatten ++ cs = c :: cs from rfl, ← hmore]
      rcases escapeChar_cases c with ⟨h, hc⟩ | hc
      -- The scan ends a string at a quote or the end of a line, and both are escaped.
      · rw [h] at hs ⊢
        simp only [List.mem_cons, List.not_mem_nil, or_false, not_or] at hc
        refine then_ok (peek_cons hs) (else_ok (by simpa using ⟨⟨hc.1, hc.2.2.1⟩, hc.2.2.2⟩) ?_)
        exact else_ok (by simpa using hc.2.1) (bind_ok (advance_one hs))
      · have hne : Json.escapeChar c ≠ [c] := by
          rcases hc with ⟨d, -, h⟩ | ⟨-, h⟩ <;> simp [h]
        have hfront : ∃ e, Json.escapeChar c = '\\' :: e := by
          rcases hc with ⟨d, -, h⟩ | ⟨-, h⟩ <;> exact ⟨_, h⟩
        obtain ⟨e, he⟩ := hfront
        have hpeek : peek s = .ok (some '\\') s := peek_cons (by rw [hs, he]; rfl)
        refine then_ok hpeek (else_ok (by decide) (if_ok rfl ?_))
        exact bind_ok (escape_ok hne hs)

theorem length_le_escaped (cs : List Char) : cs.length ≤ (cs.flatMap Json.escapeChar).length := by
  induction cs with
  | nil => exact Nat.le_refl 0
  | cons c cs ih =>
    have hc := List.length_pos_iff.2 (escapeChar_ne_nil c)
    rw [List.flatMap_cons, List.length_append, List.length_cons]
    omega

theorem string_ok (hs : s.rest = Json.quoteChars cs ++ behind) :
    string '"' s = .ok (.string (String.ofList cs) (String.ofList (Json.quoteChars cs)))
      (s.skip (Json.quoteChars cs).length) := by
  have hs' : s.rest = '"' :: (cs.flatMap Json.escapeChar ++ '"' :: behind) := by
    rw [hs, Json.quoteChars, List.cons_append, List.append_assoc]
    rfl
  have hlength := length_le_escaped cs
  have hsize : s.rest.length = s.source.size - s.pos := length_rest s
  rw [hs', List.length_cons, List.length_append] at hsize
  have hfuel : cs.length < s.source.size - s.pos + 2 := by omega
  have htext := stringText_ok [] (rest_skip_one hs') hfuel
  rw [skip_skip] at htext
  have hend : (s.skip (1 + (cs.flatMap Json.escapeChar).length)).rest = '"' :: behind := by
    rw [← skip_skip, rest_skip_of_append (rest_skip_one hs')]
  refine then_ok (position_ok s) (then_ok (advance_one hs') (then_ok (get_ok _) (then_ok htext ?_)))
  refine then_ok (eat_self hend) (else_ok (by decide) (then_ok (position_ok _) ?_))
  rw [skip_skip]
  have hquoted : (Json.quoteChars cs).length = 1 + (cs.flatMap Json.escapeChar).length + 1 := by
    simp [Json.quoteChars]
    omega
  rw [← hquoted]
  exact then_ok (slice_ok hs rfl) rfl

end Lexer

end LoopGuard
