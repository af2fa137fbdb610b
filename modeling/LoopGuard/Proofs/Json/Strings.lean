import LoopGuard.Proofs.Json.Grammar
import LoopGuard.Proofs.Syntax.Lexer.Literals

/-!
# Strings that are read

A string is read as the characters it stands for, whichever escapes it is written with, and a string
that stands for none, because its units of sixteen bits do not pair up, is refused. Skipping takes
both. The text that a string is quoted as is one of those that stand for it.

Results:
* `Reader.reads_stringBody`: a string is read as what it stands for.
* `Reader.standsFor_or_refuses`: other strings are refused.
* `Reader.reads_skipString`: any string is skipped.
* `standsFor_quoted`: a quoted string stands for what was quoted.
-/

namespace LoopGuard

namespace Json

namespace Reader

variable {cs s rest : List Char} {a b d e a' b' d' e' c : Char} {n n' : Nat}

/-! ## Units -/

theorem codeUnit?_eq_some : codeUnit? a b d e = some n ↔ ∃ w x y z, hexValue? a = some w ∧
    hexValue? b = some x ∧ hexValue? d = some y ∧ hexValue? e = some z ∧
    ((w * 16 + x) * 16 + y) * 16 + z = n := by
  simp [codeUnit?, Option.bind_eq_some_iff]

theorem hexValue?_lt (h : hexValue? c = some n) : n < 16 := by
  have hle {x y : Char} (hxy : x ≤ y) : x.toNat ≤ y.toNat := hxy
  unfold hexValue? at h
  split at h
  · next hc =>
    have := hle hc.2
    simp at h this
    omega
  · split at h
    · next hc =>
      have := hle hc.2
      simp at h this
      omega
    · split at h
      · next hc =>
        have := hle hc.2
        simp at h this
        omega
      · cases h

theorem codeUnit?_lt (h : codeUnit? a b d e = some n) : n < 0x10000 := by
  obtain ⟨w, x, y, z, hw, hx, hy, hz, rfl⟩ := codeUnit?_eq_some.1 h
  have := hexValue?_lt hw
  have := hexValue?_lt hx
  have := hexValue?_lt hy
  have := hexValue?_lt hz
  omega

theorem reads_fourHex (h : codeUnit? a b d e = some n) (rest : List Char) :
    Reads fourHex (a :: b :: d :: e :: rest) n rest := by
  obtain ⟨w, x, y, z, hw, hx, hy, hz, rfl⟩ := codeUnit?_eq_some.1 h
  intro m
  refine ⟨m + 4, ?_⟩
  have hget (c : Cursor) : (get : Reader Cursor).runAt c = (.ok c, c) := rfl
  rw [fourHex, runAt_bind, hget]
  dsimp only
  rw [hw, hx, hy, hz]
  rfl

theorem reads_secondHalf (c : Char) (rest : List Char) :
    Reads (secondHalf c) (c :: rest) () rest := by
  refine (reads_peek _).bind ?_
  show Reads (if (c == c) = true then drop else _) _ _ _
  rw [beq_self_eq_true, if_pos rfl]
  exact reads_drop c rest

theorem refuses_secondHalf (h : cs.head? ≠ some c) : Refuses (secondHalf c) cs := by
  refine Refuses.bind (reads_peek cs) ?_
  cases cs with
  | nil => exact refuses_failHere _ _
  | cons x rest =>
    have hx : ¬ (x == c) = true := by simpa using h
    show Refuses (if (x == c) = true then _ else _) _
    rw [if_neg hx]
    exact refuses_failNext _ _

/-! ## Unicode escapes -/

/-- A unit that is no half of a pair is a character. -/
theorem reads_unicodeEscape_unit (h : codeUnit? a b d e = some n) (hn : n < 0xD800 ∨ 0xDFFF < n)
    (rest : List Char) : Reads unicodeEscape (a :: b :: d :: e :: rest) (Char.ofNat n) rest := by
  refine (reads_fourHex h rest).bind ?_
  rw [if_neg (by omega), if_pos (by omega)]
  exact .pure _ rest

/-- Two units that are a pair are a character together. -/
theorem reads_unicodeEscape_pair (h : codeUnit? a b d e = some n) (hn : 0xD800 ≤ n ∧ n ≤ 0xDBFF)
    (h' : codeUnit? a' b' d' e' = some n') (hn' : 0xDC00 ≤ n' ∧ n' ≤ 0xDFFF) (rest : List Char) :
    Reads unicodeEscape (a :: b :: d :: e :: '\\' :: 'u' :: a' :: b' :: d' :: e' :: rest)
      (Char.ofNat (0x10000 + (n - 0xD800) * 0x400 + (n' - 0xDC00))) rest := by
  refine (reads_fourHex h _).bind ?_
  rw [if_neg (by omega), if_neg (by omega)]
  refine (reads_secondHalf '\\' _).bind
    ((reads_secondHalf 'u' _).bind ((reads_fourHex h' _).bind ?_))
  rw [if_neg (by omega)]
  exact .pure _ rest

/-- The second unit of a pair does not stand alone. -/
theorem refuses_unicodeEscape_low (h : codeUnit? a b d e = some n) (hn : 0xDC00 ≤ n ∧ n ≤ 0xDFFF)
    (rest : List Char) : Refuses unicodeEscape (a :: b :: d :: e :: rest) := by
  refine Refuses.bind (reads_fourHex h rest) ?_
  rw [if_pos hn]
  exact refuses_failHere _ _

/-- Behind the first unit of a pair the second one is all that is taken. -/
theorem refuses_unicodeEscape_high (h : codeUnit? a b d e = some n) (hn : 0xD800 ≤ n ∧ n ≤ 0xDBFF)
    (hcs : IsString cs rest)
    (hother : ∀ a' b' d' e' cs' n', cs = '\\' :: 'u' :: a' :: b' :: d' :: e' :: cs' →
      codeUnit? a' b' d' e' = some n' → n' < 0xDC00 ∨ 0xDFFF < n') :
    Refuses unicodeEscape (a :: b :: d :: e :: cs) := by
  refine Refuses.bind (reads_fourHex h cs) ?_
  rw [if_neg (by omega), if_neg (by omega)]
  cases hcs with
  | done => exact (refuses_secondHalf (by simp)).first _
  | plain _ _ hslash _ => exact (refuses_secondHalf (by simpa using hslash)).first _
  | @short l cs _ hl _ =>
    have hl' : l ≠ 'u' := by
      rintro rfl
      cases hl
    exact Refuses.bind (reads_secondHalf '\\' _) ((refuses_secondHalf (by simpa using hl')).first _)
  | unit hunit _ =>
    obtain ⟨n', hn'⟩ := Option.isSome_iff_exists.1 hunit
    refine Refuses.bind (reads_secondHalf '\\' _) (Refuses.bind (reads_secondHalf 'u' _)
      (Refuses.bind (reads_fourHex hn' _) ?_))
    rw [if_pos (hother _ _ _ _ _ _ rfl hn')]
    exact refuses_failHere _ _

/-! ## Escapes -/

theorem reads_escape_short (h : shortEscape? a = some c) (rest : List Char) :
    Reads escape (a :: rest) c rest := by
  refine (reads_peek _).bind ?_
  rw [List.head?_cons]
  split
  · next heq => cases heq
  · next heq =>
    cases heq
    cases h
  · next heq =>
    cases heq
    rw [h]
    exact (reads_drop a rest).bind (.pure c rest)

theorem leads_escape_unicode (cs : List Char) : Leads escape unicodeEscape ('u' :: cs) cs :=
  Leads.bind (reads_peek _) (Leads.bind (reads_drop 'u' cs) (.refl _ cs))

/-! ## Strings -/

theorem reads_stringFrom_done (fuel : Nat) (seen rest : List Char) :
    Reads (stringFrom (fuel + 1) seen) ('"' :: rest) (String.ofList seen.reverse) rest :=
  (reads_take '"' rest).bind (.pure _ rest)

theorem leads_stringFrom_plain (hc : 0x20 ≤ c.toNat) (hquote : c ≠ '"') (hslash : c ≠ '\\')
    (fuel : Nat) (seen rest : List Char) :
    Leads (stringFrom (fuel + 1) seen) (stringFrom fuel (c :: seen)) (c :: rest) rest := by
  refine Leads.bind (reads_take c rest) ?_
  split
  · next heq => cases heq
  · next heq => exact absurd (Option.some.inj heq) hquote
  · next heq => exact absurd (Option.some.inj heq) hslash
  · next heq =>
    cases heq
    rw [if_neg (by omega)]
    exact .refl _ rest

theorem leads_stringFrom_escape (h : Reads escape cs c rest) (fuel : Nat) (seen : List Char) :
    Leads (stringFrom (fuel + 1) seen) (stringFrom fuel (c :: seen)) ('\\' :: cs) rest :=
  Leads.bind (reads_take '\\' cs) (Leads.bind h (.refl _ rest))

theorem refuses_stringFrom_escape (h : Refuses escape cs) (fuel : Nat) (seen : List Char) :
    Refuses (stringFrom fuel seen) ('\\' :: cs) := by
  cases fuel with
  | zero => exact refuses_failHere _ _
  | succ fuel => exact Refuses.bind (reads_take '\\' cs) (h.first _)

/-- The numbers of characters are all but those of the halves of pairs. -/
theorem isValidChar_toNat (c : Char) : c.toNat < 0xD800 ∨ 0xDFFF < c.toNat ∧ c.toNat < 0x110000 :=
  c.valid

theorem toNat_ofNat (h : n < 0xD800 ∨ 0xDFFF < n ∧ n < 0x110000) : (Char.ofNat n).toNat = n := by
  unfold Char.ofNat
  rw [dif_pos h]
  rfl

/-- Fuel for all characters is one for the first ones and fuel for the others. -/
theorem exists_fuel (behind : List Char) {fuel : Nat} (hfuel : cs.length ≤ fuel)
    (hlt : behind.length < cs.length) : ∃ left, fuel = left + 1 ∧ behind.length ≤ left :=
  ⟨fuel - 1, by omega, by omega⟩

/-- A character that is read first, and what stands behind it. -/
theorem reads_stringFrom_cons {behind seen : List Char} {fuel : Nat}
    (hleads : Leads (stringFrom (fuel + 1) seen) (stringFrom fuel (c :: seen)) cs behind)
    (h : Reads (stringFrom fuel (c :: seen)) behind
      (String.ofList ((c :: seen).reverse ++ s)) rest) :
    Reads (stringFrom (fuel + 1) seen) cs (String.ofList (seen.reverse ++ c :: s)) rest := by
  rw [List.reverse_cons, List.append_assoc] at h
  exact hleads.reads h

theorem reads_stringFrom (h : StandsFor cs s rest) {fuel : Nat} (hfuel : cs.length ≤ fuel)
    (seen : List Char) :
    Reads (stringFrom fuel seen) cs (String.ofList (seen.reverse ++ s)) rest := by
  induction h generalizing fuel seen with
  | @done rest =>
    obtain ⟨fuel, rfl, -⟩ := exists_fuel rest hfuel (by simp)
    rw [List.append_nil]
    exact reads_stringFrom_done fuel seen _
  | @plain c cs s rest hc hquote hslash _ ih =>
    obtain ⟨fuel, rfl, hmore⟩ := exists_fuel cs hfuel (by simp)
    exact reads_stringFrom_cons (leads_stringFrom_plain hc hquote hslash fuel seen cs) (ih hmore _)
  | @short l c cs s rest hl _ ih =>
    obtain ⟨fuel, rfl, hmore⟩ := exists_fuel cs hfuel (by simp only [List.length_cons]; omega)
    have hchar := reads_escape_short hl cs
    exact reads_stringFrom_cons (leads_stringFrom_escape hchar fuel seen) (ih hmore _)
  | @unit a b d e c cs s rest hunit _ ih =>
    obtain ⟨fuel, rfl, hmore⟩ := exists_fuel cs hfuel (by simp only [List.length_cons]; omega)
    have hchar := reads_unicodeEscape_unit hunit ((isValidChar_toNat c).imp_right (·.1)) cs
    rw [Char.ofNat_toNat] at hchar
    exact reads_stringFrom_cons
      (leads_stringFrom_escape ((leads_escape_unicode _).reads hchar) fuel seen) (ih hmore _)
  | @pair a b d e a' b' d' e' c cs s rest hc hhigh hlow _ ih =>
    obtain ⟨fuel, rfl, hmore⟩ := exists_fuel cs hfuel (by simp only [List.length_cons]; omega)
    have hvalid := isValidChar_toNat c
    have hchar := reads_unicodeEscape_pair hhigh (by omega) hlow (by omega) cs
    have hcode : 0x10000 + (0xD800 + (c.toNat - 0x10000) / 0x400 - 0xD800) * 0x400 +
        (0xDC00 + (c.toNat - 0x10000) % 0x400 - 0xDC00) = c.toNat := by omega
    rw [hcode, Char.ofNat_toNat] at hchar
    exact reads_stringFrom_cons
      (leads_stringFrom_escape ((leads_escape_unicode _).reads hchar) fuel seen) (ih hmore _)

theorem reads_stringBody (h : StandsFor cs s rest) :
    Reads stringBody cs (String.ofList s) rest :=
  reads_stringFrom h (Nat.le_succ _) []

/-- A string stands for something, or it is refused. -/
theorem standsFor_or_refuses (h : IsString cs rest) :
    (∃ s, StandsFor cs s rest) ∨ ∀ fuel seen, Refuses (stringFrom fuel seen) cs := by
  induction hlength : cs.length using Nat.strongRecOn generalizing cs with
  | _ length ih =>
    -- A step that is read leaves the question to what stands behind it.
    have hstep {cs' : List Char} (c : Char) (hcs' : IsString cs' rest) (hlt : cs'.length < length)
        (hstands : ∀ s, StandsFor cs' s rest → StandsFor cs (c :: s) rest)
        (hleads : ∀ fuel seen,
          Leads (stringFrom (fuel + 1) seen) (stringFrom fuel (c :: seen)) cs cs') :
        (∃ s, StandsFor cs s rest) ∨ ∀ fuel seen, Refuses (stringFrom fuel seen) cs := by
      rcases ih _ hlt hcs' rfl with ⟨s, hs⟩ | hrefuses
      · exact .inl ⟨_, hstands s hs⟩
      · refine .inr fun fuel seen => ?_
        cases fuel with
        | zero => exact refuses_failHere _ _
        | succ fuel => exact (hleads fuel seen).refuses (hrefuses fuel (c :: seen))
    cases h with
    | done => exact .inl ⟨[], .done⟩
    | @plain c cs _ hc hquote hslash hcs =>
      exact hstep c hcs (by simp at hlength; omega) (fun s hs => .plain hc hquote hslash hs)
        fun fuel seen => leads_stringFrom_plain hc hquote hslash fuel seen cs
    | @short l cs _ hl hcs =>
      obtain ⟨c, hc⟩ := Option.isSome_iff_exists.1 hl
      exact hstep c hcs (by simp at hlength; omega) (fun s hs => .short hc hs)
        (leads_stringFrom_escape (reads_escape_short hc cs))
    | @unit a b d e cs _ hunit hcs =>
      obtain ⟨n, hn⟩ := Option.isSome_iff_exists.1 hunit
      have hlt := codeUnit?_lt hn
      by_cases hown : n < 0xD800 ∨ 0xDFFF < n
      · have htoNat : (Char.ofNat n).toNat = n := toNat_ofNat (by omega)
        exact hstep (Char.ofNat n) hcs (by simp at hlength; omega)
          (fun s hs => .unit (by rw [htoNat, hn]) hs)
          (leads_stringFrom_escape ((leads_escape_unicode _).reads
            (reads_unicodeEscape_unit hn hown cs)))
      by_cases hlow : 0xDC00 ≤ n
      · exact .inr (refuses_stringFrom_escape ((leads_escape_unicode _).refuses
          (refuses_unicodeEscape_low hn ⟨hlow, by omega⟩ cs)))
      by_cases hpair : ∃ a' b' d' e' cs' n', cs = '\\' :: 'u' :: a' :: b' :: d' :: e' :: cs' ∧
          codeUnit? a' b' d' e' = some n' ∧ 0xDC00 ≤ n' ∧ n' ≤ 0xDFFF
      · obtain ⟨a', b', d', e', cs', n', rfl, hn', hfrom, hto⟩ := hpair
        have htoNat : (Char.ofNat (0x10000 + (n - 0xD800) * 0x400 + (n' - 0xDC00))).toNat =
            0x10000 + (n - 0xD800) * 0x400 + (n' - 0xDC00) := toNat_ofNat (by omega)
        refine hstep _ hcs.of_unit (by simp at hlength; omega)
          (fun s hs => .pair (by omega) ?_ ?_ hs)
          (leads_stringFrom_escape ((leads_escape_unicode _).reads
            (reads_unicodeEscape_pair hn (by omega) hn' ⟨hfrom, hto⟩ cs')))
        · rw [hn, htoNat]
          exact congrArg some (by omega)
        · rw [hn', htoNat]
          exact congrArg some (by omega)
      · refine .inr (refuses_stringFrom_escape ((leads_escape_unicode _).refuses
          (refuses_unicodeEscape_high hn (by omega) hcs ?_)))
        intro a' b' d' e' cs' n' hcs' hn'
        by_cases hrange : n' < 0xDC00 ∨ 0xDFFF < n'
        · exact hrange
        · exact absurd ⟨a', b', d', e', cs', n', hcs', hn', by omega, by omega⟩ hpair

/-! ## Skipped strings -/

theorem reads_skipStringFrom (h : IsString cs rest) {fuel : Nat} (hfuel : cs.length ≤ fuel) :
    Reads (skipStringFrom fuel) cs () rest := by
  induction h generalizing fuel with
  | @done rest =>
    obtain ⟨fuel, rfl, -⟩ := exists_fuel rest hfuel (by simp)
    exact (reads_peek _).bind (reads_drop '"' rest)
  | @plain c cs rest hc hquote hslash _ ih =>
    obtain ⟨fuel, rfl, hmore⟩ := exists_fuel cs hfuel (by simp)
    refine (reads_peek _).bind ?_
    rw [List.head?_cons]
    split
    · next heq => cases heq
    · next heq => exact absurd (Option.some.inj heq) hquote
    · next heq => exact absurd (Option.some.inj heq) hslash
    · next heq =>
      cases heq
      rw [if_neg (by omega)]
      exact (reads_drop c cs).bind (ih hmore)
  | @short l cs rest hl _ ih =>
    obtain ⟨fuel, rfl, hmore⟩ := exists_fuel cs hfuel (by simp only [List.length_cons]; omega)
    refine (reads_peek _).bind ((reads_drop '\\' _).bind ((reads_peek _).bind ?_))
    rw [List.head?_cons]
    split
    · next heq => cases heq
    · next heq =>
      cases heq
      cases hl
    · next heq =>
      cases heq
      rw [if_pos hl]
      exact (reads_drop l cs).bind (ih hmore)
  | @unit a b d e cs rest hunit _ ih =>
    obtain ⟨fuel, rfl, hmore⟩ := exists_fuel cs hfuel (by simp only [List.length_cons]; omega)
    obtain ⟨n, hn⟩ := Option.isSome_iff_exists.1 hunit
    refine (reads_peek _).bind ((reads_drop '\\' _).bind ((reads_peek _).bind ?_))
    exact (reads_drop 'u' _).bind ((reads_fourHex hn cs).bind (ih hmore))

theorem reads_skipString (h : IsString cs rest) : Reads skipString cs () rest :=
  reads_skipStringFrom h (Nat.le_succ _)

end Reader

/-! ## Quoted strings -/

/-- Control characters do not stand for themselves. -/
theorem le_toNat_of_escapeChar {c : Char} (h : escapeChar c = [c]) : 0x20 ≤ c.toNat := by
  have hcontrol : ∀ n < 0x20, escapeChar (Char.ofNat n) ≠ [Char.ofNat n] := by decide
  have hne : c.toNat < 0x20 → escapeChar c ≠ [c] := by simpa using hcontrol c.toNat
  exact Nat.le_of_not_lt fun hlt => hne hlt h

theorem standsFor_escapeChar {cs s rest : List Char} (c : Char) (h : StandsFor cs s rest) :
    StandsFor (escapeChar c ++ cs) (c :: s) rest := by
  have hshort : ∀ p ∈ Lexer.shortEscapes, Reader.shortEscape? p.2 = some p.1 := by decide
  have hunit : ∀ n < 0x20, codeUnit? '0' '0' (hexDigit (n / 16)) (hexDigit (n % 16)) = some n := by
    decide
  rcases Lexer.escapeChar_cases c with ⟨hc, hmarks⟩ | ⟨d, hd, hc⟩ | ⟨hcontrol, hc⟩
  · rw [hc]
    exact .plain (le_toNat_of_escapeChar hc) (by rintro rfl; simp at hmarks)
      (by rintro rfl; simp at hmarks) h
  · rw [hc]
    exact .short (hshort _ hd) h
  · rw [hc]
    exact .unit (hunit _ hcontrol) h

/-- A quoted string stands for what was quoted. -/
theorem standsFor_quoted (s rest : List Char) :
    StandsFor (s.flatMap escapeChar ++ '"' :: rest) s rest := by
  induction s with
  | nil => exact .done
  | cons c s ih =>
    rw [List.flatMap_cons, List.append_assoc]
    exact standsFor_escapeChar c ih

end Json

end LoopGuard
