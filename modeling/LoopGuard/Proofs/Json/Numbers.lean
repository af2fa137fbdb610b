import LoopGuard.Proofs.Json.Grammar
import LoopGuard.Proofs.Syntax.Lexer.Literals

/-!
# Numbers that are read

A number of the grammar is skipped whatever it looks like. Where a natural number is expected, one
with a sign, a fraction or an exponent is refused, as is one that is too great; any other is taken
to its end. What is written for a natural number is read as it.

Results:
* `Reader.reads_skipNumber`: numbers are skipped.
* `Reader.refuses_or_reads_natural`: a number is refused or taken to its end.
* `Reader.reads_natural`: a number is read as what it was written for.
-/

namespace LoopGuard

namespace Json

variable {cs cs₁ cs₂ ds rest : List Char}

/-! ## Digits -/

/-- Whether no digit stands in front of some characters. -/
def NoDigit (cs : List Char) : Prop := ∀ c ∈ cs.head?, c.isDigit = false

theorem Digits.exists_eq (h : Digits cs rest) :
    ∃ c ds, (∀ d ∈ c :: ds, d.isDigit = true) ∧ cs = c :: ds ++ rest := by
  induction h with
  | @one c rest hc => exact ⟨c, [], by simpa using hc, rfl⟩
  | @more c cs rest hc _ ih =>
    obtain ⟨d, ds, hds, rfl⟩ := ih
    refine ⟨c, d :: ds, ?_, rfl⟩
    rw [List.forall_mem_cons]
    exact ⟨hc, hds⟩

theorem digits_append {c : Char} (h : ∀ d ∈ c :: ds, d.isDigit = true) (rest : List Char) :
    Digits (c :: ds ++ rest) rest := by
  induction ds generalizing c with
  | nil => exact .one (h c (by simp))
  | cons d ds ih =>
    rw [List.forall_mem_cons] at h
    exact .more h.1 (ih h.2)

theorem Digits.length_lt (h : Digits cs rest) : rest.length < cs.length := by
  obtain ⟨c, ds, -, rfl⟩ := h.exists_eq
  rw [List.cons_append, List.length_cons, List.length_append]
  omega

theorem takeWhile_digits (h : ∀ d ∈ ds, d.isDigit = true) (hrest : NoDigit rest) :
    (ds ++ rest).takeWhile Char.isDigit = ds := by
  rw [List.takeWhile_append_of_pos h]
  cases rest with
  | nil => simp
  | cons c rest =>
    have hc : c.isDigit = false := hrest c rfl
    rw [List.takeWhile_cons_of_neg (by simp [hc]), List.append_nil]

theorem dropWhile_digits (h : ∀ d ∈ ds, d.isDigit = true) (hrest : NoDigit rest) :
    (ds ++ rest).dropWhile Char.isDigit = rest := by
  rw [List.dropWhile_append_of_pos h]
  cases rest with
  | nil => rfl
  | cons c rest =>
    have hc : c.isDigit = false := hrest c rfl
    exact List.dropWhile_cons_of_neg (by simp [hc])

theorem IsUnsigned.length_lt (h : IsUnsigned cs rest) : rest.length < cs.length := by
  obtain ⟨cs₁, cs₂, hwhole, hfraction, hexponent⟩ := h
  have hwhole : cs₁.length < cs.length := by
    cases hwhole with
    | zero => simp
    | digits _ hdigits => exact hdigits.length_lt
  have hfraction : cs₂.length ≤ cs₁.length := by
    cases hfraction with
    | none => exact Nat.le_refl _
    | digits hdigits => exact Nat.le_succ_of_le (Nat.le_of_lt hdigits.length_lt)
  have hexponent : rest.length ≤ cs₂.length := by
    cases hexponent with
    | none => exact Nat.le_refl _
    | digits _ hsign hdigits =>
      have := hdigits.length_lt
      cases hsign with
      | none => simp; omega
      | sign _ => simp; omega
  omega

/-! ## Where numbers end -/

theorem IsEnd.noDigit (h : IsEnd cs) : NoDigit cs := by
  intro c hc
  rcases h c hc with hspace | rfl | rfl | rfl
  · simp only [Reader.isSpace, Bool.or_eq_true, beq_iff_eq] at hspace
    rcases hspace with ((rfl | rfl) | rfl) | rfl <;> decide
  all_goals decide

theorem IsEnd.head?_ne (h : IsEnd cs) :
    cs.head? ≠ some '.' ∧ cs.head? ≠ some 'e' ∧ cs.head? ≠ some 'E' := by
  refine ⟨fun hc => ?_, fun hc => ?_, fun hc => ?_⟩
  all_goals
    have hend := h _ hc
    revert hend
    decide

theorem IsExponent.noDigit (h : IsExponent cs rest) (hrest : IsEnd rest) : NoDigit cs := by
  cases h with
  | none => exact hrest.noDigit
  | digits hc _ _ =>
    rintro c ⟨⟩
    rcases hc with rfl | rfl <;> decide

theorem IsExponent.head?_ne (h : IsExponent cs rest) (hrest : IsEnd rest) :
    cs.head? ≠ some '.' := by
  cases h with
  | none => exact hrest.head?_ne.1
  | digits hc _ _ => rcases hc with rfl | rfl <;> simp

theorem IsFraction.noDigit (h : IsFraction cs cs₁) (h' : IsExponent cs₁ rest) (hrest : IsEnd rest) :
    NoDigit cs := by
  cases h with
  | none => exact h'.noDigit hrest
  | digits _ =>
    rintro c ⟨⟩
    decide

namespace Reader

/-! ## Skipping -/

theorem reads_skipDigits (h : Digits cs rest) (hrest : NoDigit rest) :
    Reads skipDigits cs () rest := by
  obtain ⟨c, ds, hds, rfl⟩ := h.exists_eq
  have hc : c.isDigit = true := hds c (by simp)
  refine (reads_atDigit _).bind ?_
  rw [List.cons_append, List.head?_cons, Option.any_some, if_pos hc]
  have hskip := reads_skipWhile Char.isDigit (c :: ds ++ rest)
  rwa [dropWhile_digits hds hrest] at hskip

theorem reads_skipExponent (h : IsExponent cs rest) (hrest : IsEnd rest) :
    Reads skipExponent cs () rest := by
  refine (reads_peek cs).bind ?_
  cases h with
  | none =>
    obtain ⟨-, he, hE⟩ := hrest.head?_ne
    rw [if_neg (by simp [he, hE])]
    exact .pure () cs
  | @digits c cs cs' _ hc hsign hdigits =>
    rw [if_pos (by rcases hc with rfl | rfl <;> rfl)]
    refine (reads_drop c cs).bind ((reads_peek cs).bind ?_)
    have hskip := reads_skipDigits hdigits hrest.noDigit
    cases hsign with
    | none =>
      obtain ⟨d, ds, hds, rfl⟩ := hdigits.exists_eq
      have hd : d.isDigit = true := hds d (by simp)
      rw [if_neg]
      · exact hskip
      · rintro hsign
        simp only [List.cons_append, List.head?_cons, Bool.or_eq_true, beq_iff_eq,
          Option.some.injEq] at hsign
        rcases hsign with rfl | rfl <;> cases hd
    | @sign d cs' hd =>
      rw [if_pos (by rcases hd with rfl | rfl <;> rfl)]
      exact (reads_drop d cs').bind hskip

/-- Skips what may follow the whole part of a number. -/
def skipTail : Reader Unit := do
  if (← peek) == some '.' then
    drop
    skipDigits
  skipExponent

theorem reads_skipTail (h : IsFraction cs cs₁) (h' : IsExponent cs₁ rest) (hrest : IsEnd rest) :
    Reads skipTail cs () rest := by
  refine (reads_peek cs).bind ?_
  cases h with
  | none =>
    rw [if_neg (by simpa using h'.head?_ne hrest)]
    exact reads_skipExponent h' hrest
  | @digits cs _ hdigits =>
    exact (reads_drop '.' cs).bind ((reads_skipDigits hdigits (h'.noDigit hrest)).bind
      (reads_skipExponent h' hrest))

theorem leads_skipNumber (h : IsWhole cs cs₁) (hcs₁ : NoDigit cs₁) :
    Leads skipNumber skipTail cs cs₁ := by
  refine Leads.bind (reads_peek cs) ?_
  cases h with
  | zero =>
    have hdigit : cs₁.head?.any Char.isDigit = false := by
      cases cs₁ with
      | nil => rfl
      | cons c cs₁ => exact hcs₁ c rfl
    refine Leads.bind (reads_drop '0' cs₁) (Leads.bind (reads_atDigit cs₁) ?_)
    rw [hdigit]
    exact .refl skipTail cs₁
  | @digits c cs _ hc hdigits =>
    rw [List.head?_cons]
    split
    · next heq => exact absurd (Option.some.inj heq) hc
    · exact Leads.bind (reads_skipDigits hdigits hcs₁) (.refl skipTail cs₁)

theorem reads_skipNumber (h : IsUnsigned cs rest) (hrest : IsEnd rest) :
    Reads skipNumber cs () rest := by
  obtain ⟨cs₁, cs₂, hwhole, hfraction, hexponent⟩ := h
  exact (leads_skipNumber hwhole (hfraction.noDigit hexponent hrest)).reads
    (reads_skipTail hfraction hexponent hrest)

/-! ## Numbers that are not natural -/

/-- Whether a number is not natural, as it is written. -/
def NotNatural (x : Number) : Prop := ∀ n, x ≠ .natural n

theorem ensures_scaled (isNegative : Bool) (digits : Nat) (exponent : Int) :
    Ensures NotNatural (scaled isNegative digits exponent) := by
  unfold scaled
  split
  · exact .pure nofun
  · exact ensures_failHere _ _

theorem ensures_exponentPart (isNegative : Bool) (digits : Nat) (exponent : Int) :
    Ensures NotNatural (exponentPart isNegative digits exponent) := by
  refine .bind fun _ => .bind fun c => .bind fun c' => .ite (.bind fun _ => ?_) ?_
  -- Behind a sign and where there is none the rest is the same.
  all_goals
    refine .bind fun c => ?_
    cases c with
    | none => exact ensures_failHere _ _
    | some c =>
      refine .ite (ensures_failNext _ _) (.bind fun _ => .bind fun n => ?_)
      cases n with
      | some n => exact ensures_scaled _ _ _
      | none => exact .ite (ensures_failHere _ _) (.bind fun _ => .pure nofun)

theorem ensures_fractionPart (isNegative : Bool) (digits : Nat) (exponent : Int) :
    Ensures NotNatural (fractionPart isNegative digits exponent) := by
  refine .bind fun _ => .bind fun ahead => .ite (.bind fun _ => ensures_failNext _ _) ?_
  refine .bind fun _ => .bind fun c => .ite ?_ ?_
  · exact ensures_exponentPart _ _ _
  · exact ensures_scaled _ _ _

theorem ensures_wholePart_negative (n dropped : Nat) :
    Ensures NotNatural (number.wholePart true n dropped) := by
  refine .bind fun c => .ite (ensures_fractionPart _ _ _) (.ite (ensures_exponentPart _ _ _) ?_)
  refine .ite (ensures_scaled _ _ _) ?_
  rw [if_neg (by decide)]
  exact .ite (.pure nofun) (.pure nofun)

/-- A number with a sign in front is never natural. -/
theorem ensures_number_negative : Ensures NotNatural (number true) := by
  refine .bind fun c => ?_
  cases c with
  | none => exact ensures_failHere _ _
  | some c =>
    refine .ite (ensures_failNext _ _) (.ite ?_ ?_)
    · exact .bind fun _ => .bind fun b =>
        .ite (ensures_failNext _ _) (ensures_wholePart_negative _ _)
    · exact .bind fun ahead => .bind fun _ => ensures_wholePart_negative _ _

/-! ## Natural numbers -/

theorem refuses_check {x : Number} (hx : NotNatural x) (bits : Nat) (name : String)
    (cs : List Char) : Refuses (natural.check bits name x) cs := by
  cases x with
  | natural n => exact absurd rfl (hx n)
  | negative n => exact refuses_failValue _ _
  | float isNegative size => exact refuses_failValue _ _

theorem refuses_or_reads_check (bits : Nat) (name : String) (n : Nat) (cs : List Char) :
    Refuses (natural.check bits name (.natural n)) cs ∨
      Reads (natural.check bits name (.natural n)) cs n cs := by
  by_cases hn : n < 1 <<< bits
  · refine .inr ?_
    show Reads (if n < 1 <<< bits then _ else _) _ _ _
    rw [if_pos hn]
    exact .pure n cs
  · refine .inl ?_
    show Refuses (if n < 1 <<< bits then _ else _) _
    rw [if_neg hn]
    exact refuses_failValue _ _

theorem reads_digitsAhead (cs : List Char) :
    Reads digitsAhead cs (cs.takeWhile Char.isDigit) cs := fun n => ⟨n, rfl⟩

theorem leads_number_zero (hrest : NoDigit rest) (isNegative : Bool) :
    Leads (number isNegative) (number.wholePart isNegative 0 0) ('0' :: rest) rest := by
  have hdigit : rest.head?.any Char.isDigit = false := by
    cases rest with
    | nil => rfl
    | cons c rest => exact hrest c rfl
  refine Leads.bind (reads_peek _) (Leads.bind (reads_drop '0' rest) ?_)
  refine Leads.bind (reads_atDigit rest) ?_
  rw [hdigit]
  exact .refl _ rest

theorem leads_number_digits {c : Char} (hc : c ≠ '0') (hds : ∀ d ∈ c :: ds, d.isDigit = true)
    (hrest : NoDigit rest) (isNegative : Bool) :
    Leads (number isNegative) (number.wholePart isNegative (fitDigits 0 (c :: ds)).1
      (fitDigits 0 (c :: ds)).2.length) (c :: ds ++ rest) rest := by
  have hdigit : c.isDigit = true := hds c (by simp)
  refine Leads.bind (reads_peek _) ?_
  rw [List.cons_append, List.head?_cons]
  show Leads (if (!c.isDigit) = true then _ else _) _ _ _
  rw [if_neg (by simp [hdigit]), if_neg (by simpa using hc)]
  refine Leads.bind (reads_digitsAhead _) ?_
  rw [← List.cons_append, takeWhile_digits hds hrest]
  have hskip := reads_skipWhile Char.isDigit (c :: ds ++ rest)
  rw [dropWhile_digits hds hrest] at hskip
  exact Leads.bind hskip (.refl _ rest)

theorem reads_wholePart {n : Nat} (hrest : IsEnd rest) :
    Reads (number.wholePart false n 0) rest (.natural n) rest := by
  obtain ⟨hdot, he, hE⟩ := hrest.head?_ne
  refine (reads_peek rest).bind ?_
  rw [if_neg (by simpa using hdot), if_neg (by simp [he, hE])]
  exact .pure _ rest

/-- A number with a fraction or an exponent is not natural. -/
theorem leads_wholePart_marked
    (h : cs.head? = some '.' ∨ cs.head? = some 'e' ∨ cs.head? = some 'E') (isNegative : Bool)
    (n dropped : Nat) : ∃ r : Reader Number, Ensures NotNatural r ∧
      Leads (number.wholePart isNegative n dropped) r cs cs := by
  by_cases hdot : cs.head? = some '.'
  · refine ⟨_, ensures_fractionPart isNegative n dropped, Leads.bind (reads_peek cs) ?_⟩
    rw [if_pos (by simpa using hdot)]
    exact .refl _ cs
  · refine ⟨_, ensures_exponentPart isNegative n dropped, Leads.bind (reads_peek cs) ?_⟩
    rw [if_neg (by simpa using hdot), if_pos (by simpa [hdot] using h)]
    exact .refl _ cs

/-- What follows the whole part is refused, or it is nothing. -/
theorem refuses_or_reads_wholePart (h : IsFraction cs cs₁) (h' : IsExponent cs₁ rest)
    (hrest : IsEnd rest) (bits : Nat) (name : String) (n dropped : Nat) :
    Refuses (number.wholePart false n dropped >>= natural.check bits name) cs ∨
      ∃ m, Reads (number.wholePart false n dropped >>= natural.check bits name) cs m rest := by
  by_cases hmark : cs.head? = some '.' ∨ cs.head? = some 'e' ∨ cs.head? = some 'E'
  · obtain ⟨r, hr, hleads⟩ := leads_wholePart_marked hmark false n dropped
    exact .inl ((hleads.followed _).refuses
      (Refuses.of_ensures hr (fun x hx => refuses_check hx bits name) cs))
  simp only [not_or] at hmark
  obtain ⟨hdot, he, hE⟩ := hmark
  -- Nothing of the number is left.
  have hcs : cs = rest := by
    cases h with
    | digits _ => exact absurd rfl hdot
    | none =>
      cases h' with
      | none => rfl
      | digits hc _ _ =>
        rcases hc with rfl | rfl
        · exact absurd rfl he
        · exact absurd rfl hE
  subst hcs
  by_cases hdropped : dropped = 0
  · subst hdropped
    rcases refuses_or_reads_check bits name n cs with hcheck | hcheck
    · exact .inl (Refuses.bind (reads_wholePart hrest) hcheck)
    · exact .inr ⟨n, (reads_wholePart hrest).bind hcheck⟩
  · have hscaled : Leads (number.wholePart false n dropped) (scaled false n dropped) cs cs := by
      refine Leads.bind (reads_peek cs) ?_
      rw [if_neg (by simpa using hdot), if_neg (by simp [he, hE]), if_pos (by simpa using hdropped)]
      exact .refl _ cs
    exact .inl ((hscaled.followed _).refuses (Refuses.of_ensures (ensures_scaled _ _ _)
      (fun x hx => refuses_check hx bits name) cs))

/-- Where a natural number is expected, a number without a sign is refused or taken to its end. -/
theorem refuses_or_reads_number (h : IsUnsigned cs rest) (hrest : IsEnd rest) (bits : Nat)
    (name : String) :
    Refuses (number false >>= natural.check bits name) cs ∨
      ∃ n, Reads (number false >>= natural.check bits name) cs n rest := by
  obtain ⟨cs₁, cs₂, hwhole, hfraction, hexponent⟩ := h
  have hcs₁ := hfraction.noDigit hexponent hrest
  have hleads : ∃ n dropped, Leads (number false) (number.wholePart false n dropped) cs cs₁ := by
    cases hwhole with
    | zero => exact ⟨0, 0, leads_number_zero hcs₁ false⟩
    | digits hc hdigits =>
      obtain ⟨c, ds, hds, heq⟩ := hdigits.exists_eq
      obtain ⟨rfl, rfl⟩ := List.cons_eq_cons.1 heq
      exact ⟨_, _, leads_number_digits hc hds hcs₁ false⟩
  obtain ⟨n, dropped, hleads⟩ := hleads
  have hchecked := hleads.followed (natural.check bits name)
  rcases refuses_or_reads_wholePart hfraction hexponent hrest bits name n dropped with hpart | hpart
  · exact .inl (hchecked.refuses hpart)
  · obtain ⟨m, hpart⟩ := hpart
    exact .inr ⟨m, hchecked.reads hpart⟩

theorem refuses_unexpected (expected : String) (cs : List Char) :
    Refuses (unexpected expected : Reader α) cs := by
  refine Refuses.bind (reads_peek cs) ?_
  split
  · exact refuses_failValue _ _
  · exact refuses_failValue _ _
  · exact Refuses.last (fun _ => refuses_failValue _) cs

theorem leads_natural_digit {c : Char} (hc : c.isDigit = true) (hspaces : Spaces cs (c :: rest))
    (bits : Nat) (name : String) :
    Leads (natural bits name) (placed (number false >>= natural.check bits name)) cs
      (c :: rest) := by
  refine leads_placed (Leads.bind (hspaces.token_cons (isSpace_of_isDigit hc)) ?_)
  have hsign : c ≠ '-' := by
    rintro rfl
    cases hc
  show Leads (if (c == '-') = true then _ else _) _ _ _
  rw [if_neg (by simpa using hsign), if_pos hc]
  exact .refl _ _

theorem refuses_natural {c : Char} (hc : c.isDigit = false) (hspace : isSpace c = false)
    (hspaces : Spaces cs (c :: rest)) (bits : Nat) (name : String) :
    Refuses (natural bits name) cs := by
  refine refuses_placed (Refuses.bind (hspaces.token_cons hspace) ?_)
  show Refuses (if (c == '-') = true then _ else _) _
  by_cases hsign : c = '-'
  · subst hsign
    rw [beq_self_eq_true, if_pos rfl]
    exact Refuses.bind (reads_drop '-' rest) (Refuses.of_ensures ensures_number_negative
      (fun x hx => refuses_check hx bits name) rest)
  · rw [if_neg (by simpa using hsign), if_neg (by simp [hc])]
    exact refuses_unexpected name _

/-- A value that no digit starts is refused where a natural number is expected. -/
theorem refuses_natural_or_isUnsigned (h : IsValue cs rest) (hspaces : Spaces cs₁ cs) (bits : Nat)
    (name : String) : Refuses (natural bits name) cs₁ ∨ IsUnsigned cs rest := by
  cases h with
  | scalar h =>
    cases h with
    | number h => exact .inr h
    | null => exact .inl (refuses_natural (c := 'n') rfl rfl hspaces bits name)
    | true => exact .inl (refuses_natural (c := 't') rfl rfl hspaces bits name)
    | false => exact .inl (refuses_natural (c := 'f') rfl rfl hspaces bits name)
    | negative _ => exact .inl (refuses_natural rfl rfl hspaces bits name)
    | string _ => exact .inl (refuses_natural rfl rfl hspaces bits name)
  | empty b _ => cases b <;> exact .inl (refuses_natural rfl rfl hspaces bits name)
  | container b _ => cases b <;> exact .inl (refuses_natural rfl rfl hspaces bits name)

/-- Where a natural number is expected, a value is refused or taken to its end. -/
theorem refuses_or_reads_natural (h : IsValue cs rest) (hrest : IsEnd rest) (bits : Nat)
    (name : String) (hspaces : Spaces cs₁ cs) :
    Refuses (natural bits name) cs₁ ∨ ∃ n, Reads (natural bits name) cs₁ n rest := by
  rcases refuses_natural_or_isUnsigned h hspaces bits name with hrefuses | hnumber
  · exact .inl hrefuses
  · obtain ⟨c, ds, rfl, hc⟩ := hnumber.exists_cons
    have hleads := leads_natural_digit hc hspaces bits name
    rcases refuses_or_reads_number hnumber hrest bits name with hrefuses | ⟨n, hreads⟩
    · exact .inl (hleads.refuses (refuses_placed hrefuses))
    · exact .inr ⟨n, hleads.reads (reads_placed hreads)⟩

/-! ## Written numbers -/

theorem le_ofDigitChars (ds : List Char) (n : Nat) : n ≤ Nat.ofDigitChars 10 ds n := by
  induction ds generalizing n with
  | nil => exact Nat.le_refl n
  | cons d ds ih =>
    rw [Nat.ofDigitChars_cons]
    exact Nat.le_trans (by omega) (ih _)

/-- What a number is written as. -/
theorem isUnsigned_toDigits (n : Nat) (rest : List Char) :
    IsUnsigned (Nat.toDigits 10 n ++ rest) rest := by
  refine ⟨rest, rest, ?_, .none, .none⟩
  by_cases hzero : n = 0
  · subst hzero
    exact .zero
  · have hdigits : ∀ d ∈ Nat.toDigits 10 n, d.isDigit = true := fun d hd =>
      Nat.isDigit_of_mem_toDigits (by omega) (by omega) hd
    have hhead := Lexer.head?_toDigits hzero
    cases hds : Nat.toDigits 10 n with
    | nil => exact absurd hds Nat.toDigits_ne_nil
    | cons c ds =>
      rw [hds] at hdigits hhead
      exact .digits (by simpa using hhead) (digits_append hdigits rest)

/-- Digits of a number of 64 bits all count. -/
theorem fitDigits_of_lt {n : Nat} (h : Nat.ofDigitChars 10 ds n < UInt64.size) :
    fitDigits n ds = (Nat.ofDigitChars 10 ds n, []) := by
  induction ds generalizing n with
  | nil => rfl
  | cons d ds ih =>
    have hnext : n * 10 + digitValue d = 10 * n + (d.toNat - '0'.toNat) := by
      rw [digitValue, Nat.mul_comm]
    rw [Nat.ofDigitChars_cons, ← hnext] at h ⊢
    have hlt : n * 10 + digitValue d < UInt64.size := Nat.lt_of_le_of_lt (le_ofDigitChars ds _) h
    rw [fitDigits, if_pos hlt, ih h]

/-- The digits of a number of 64 bits are read as the number. -/
theorem reads_number {n : Nat} (hn : n < UInt64.size) (hrest : IsEnd rest) :
    Reads (number false) (Nat.toDigits 10 n ++ rest) (.natural n) rest := by
  by_cases hzero : n = 0
  · subst hzero
    exact (leads_number_zero hrest.noDigit false).reads (reads_wholePart hrest)
  · have hdigits : ∀ d ∈ Nat.toDigits 10 n, d.isDigit = true := fun d hd =>
      Nat.isDigit_of_mem_toDigits (by omega) (by omega) hd
    have hvalue : Nat.ofDigitChars 10 (Nat.toDigits 10 n) 0 = n := Nat.ofDigitChars_ten_toDigits
    have hhead := Lexer.head?_toDigits hzero
    cases hds : Nat.toDigits 10 n with
    | nil => exact absurd hds Nat.toDigits_ne_nil
    | cons c ds =>
      rw [hds] at hdigits hvalue hhead
      have hleads := leads_number_digits (by simpa using hhead) hdigits hrest.noDigit false
      rw [fitDigits_of_lt (by rw [hvalue]; exact hn), hvalue] at hleads
      exact hleads.reads (reads_wholePart hrest)

theorem reads_natural {bits n : Nat} (hn : n < 1 <<< bits) (hbits : bits ≤ 64) (name : String)
    (hrest : IsEnd rest) (hspaces : Spaces cs (Nat.toDigits 10 n ++ rest)) :
    Reads (natural bits name) cs n rest := by
  have hsize : n < UInt64.size := by
    rw [Nat.one_shiftLeft] at hn
    exact Nat.lt_of_lt_of_le hn (Nat.pow_le_pow_right (by omega) hbits)
  have hchecked : Reads (number false >>= natural.check bits name) (Nat.toDigits 10 n ++ rest) n
      rest := by
    refine (reads_number hsize hrest).bind ?_
    show Reads (if n < 1 <<< bits then _ else _) _ _ _
    rw [if_pos hn]
    exact .pure n rest
  cases hds : Nat.toDigits 10 n with
  | nil => exact absurd hds Nat.toDigits_ne_nil
  | cons c ds =>
    have hc : c.isDigit = true :=
      Nat.isDigit_of_mem_toDigits (b := 10) (n := n) (by omega) (by omega) (by simp [hds])
    rw [hds] at hspaces hchecked
    exact (leads_natural_digit hc hspaces bits name).reads (reads_placed hchecked)

end Reader

end Json

end LoopGuard
