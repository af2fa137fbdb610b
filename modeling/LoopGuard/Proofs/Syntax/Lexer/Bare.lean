import LoopGuard.Proofs.Syntax.Lexer.Spelled

/-!
# Texts of names, numbers and points

A bare text has nothing in it that separates, encloses or joins: names, numbers, points, semicolons,
and whatever characters beyond ASCII. Its tokens are of a few kinds only. A character beyond ASCII
that starts no name is a flaw where a token should start; until that place is come to, the flaw lies
ahead.

Results:
* `Scan.Runs.bind`, `Lexer.number_runs`: what any scan of a number does to the text ahead.
* `Lexer.next_bare`: one token of a bare text, and what becomes of a flaw that lies ahead.
-/

namespace LoopGuard

/-- The marks of bare texts. -/
def Lexer.bareMarks : List String := ["...", ".", ";"]

/-- The tokens of bare texts. -/
inductive Token.IsBare : Token → Prop where
  | word {w : String} (hw : Lexer.IsWord w.toList) : IsBare (.word w)
  | mark {m : String} (hm : m ∈ Lexer.bareMarks) : IsBare (.mark m)
  | number (raw : String) : IsBare (.number raw)
  | bigint (raw : String) : IsBare (.bigint raw)
  | flawed (d : Diagnostic) (stop : Nat) : IsBare (.flawed d stop)

namespace Lexer

open Scan

/-! ## Characters -/

/-- The characters of bare texts. -/
def isBare (c : Char) : Bool :=
  startsPlainly c && (128 ≤ c.toNat || isNamePart c || c == '.' || c == ';')

/-- Whether no token of a bare text starts with the character. -/
def isStray (c : Char) : Bool := 128 ≤ c.toNat && !isNameStart c

/-- Whether a character that starts no token stands where a token starts. -/
inductive HasStray : List Char → Prop where
  | here {c : Char} {behind : List Char} (hc : isStray c = true) : HasStray (c :: behind)
  | word {cs behind : List Char} (hcs : IsWord cs) (hend : EndsWord behind)
      (h : HasStray behind) : HasStray (cs ++ behind)
  | point {behind : List Char} (hend : EndsMark "." behind) (h : HasStray behind) :
      HasStray ('.' :: behind)

variable {c : Char} {cs behind : List Char}

theorem isBare_iff : isBare c = true ↔
    startsPlainly c = true ∧ (128 ≤ c.toNat ∨ isNamePart c = true ∨ c = '.' ∨ c = ';') := by
  simp [isBare, or_assoc]

theorem ne_of_isBare {d : Char} (h : isBare c = true) (hd : isBare d = false) : c ≠ d := by
  rintro rfl
  rw [hd] at h
  cases h

theorem isStray_iff : isStray c = true ↔ 128 ≤ c.toNat ∧ isNameStart c = false := by
  simp [isStray]

theorem isDigit_of_isStray (h : isStray c = true) : c.isDigit = false :=
  isDigit_eq_false (by decide) h

/-- A word is over at the end of the characters of names. -/
theorem eq_takeWhile (hcs : IsWord cs) (hend : EndsWord behind) :
    (cs ++ behind).takeWhile isNamePart = cs ∧ (cs ++ behind).dropWhile isNamePart = behind := by
  rw [List.takeWhile_append_of_pos hcs.part, List.dropWhile_append_of_pos hcs.part]
  cases behind with
  | nil => exact ⟨List.append_nil cs, rfl⟩
  | cons c behind =>
    have hc : ¬ isNamePart c = true := by simp [(hend c rfl).1]
    rw [List.takeWhile_cons_of_neg hc, List.dropWhile_cons_of_neg hc, List.append_nil]
    exact ⟨rfl, rfl⟩

/-- What a flaw ahead starts with. -/
theorem HasStray.cases_cons (h : HasStray (c :: behind)) :
    isStray c = true ∨
      (isNameStart c = true ∧ HasStray ((c :: behind).dropWhile isNamePart)) ∨
      (c = '.' ∧ EndsMark "." behind ∧ HasStray behind) := by
  generalize hall : c :: behind = all at h
  cases h with
  | here hc =>
    cases hall
    exact .inl hc
  | @word cs behind hcs hend h =>
    refine .inr (.inl ⟨?_, ?_⟩)
    · obtain ⟨d, hd, hstart⟩ := hcs.start
      have hhead : (cs ++ behind).head? = some d := by
        rw [List.head?_append, hd]
        rfl
      rw [← hall] at hhead
      cases hhead
      exact hstart
    · rw [(eq_takeWhile hcs hend).2]
      exact h
  | point hend h =>
    cases hall
    exact .inr (.inr ⟨rfl, hend, h⟩)

theorem HasStray.ne_nil (h : HasStray cs) : cs ≠ [] := by
  rintro rfl
  generalize hall : ([] : List Char) = all at h
  cases h with
  | here | point => cases hall
  | word hcs =>
    obtain ⟨c, hc, -⟩ := hcs.start
    rw [(List.append_eq_nil_iff.1 hall.symm).1] at hc
    cases hc

end Lexer

/-! ## Scans -/

/-- What a scan keeps: where it stands in braces and templates, and that a fault has been found. It
never goes back. -/
structure Lexer.Leads (s s' : Lexer) : Prop where
  regexAt : s'.regexAt = s.regexAt
  nests : s'.nests = s.nests
  rest : s'.rest <:+ s.rest
  faults : s.faults ≠ #[] → s'.faults ≠ #[]

namespace Lexer.Leads

variable {s s₁ s' : Lexer}

/-- A scan that stays where it is. -/
theorem stay (hregex : s'.regexAt = s.regexAt) (hnests : s'.nests = s.nests)
    (hrest : s'.rest = s.rest) (hfaults : s'.faults = s.faults) : Leads s s' := by
  refine ⟨hregex, hnests, ⟨[], hrest⟩, ?_⟩
  rw [hfaults]
  exact id

theorem refl (s : Lexer) : Leads s s := stay rfl rfl rfl rfl

theorem trans (h : Leads s s₁) (h' : Leads s₁ s') : Leads s s' where
  regexAt := h'.regexAt.trans h.regexAt
  nests := h'.nests.trans h.nests
  rest := h'.rest.trans h.rest
  faults hs := h'.faults (h.faults hs)

theorem skip (s : Lexer) (n : Nat) : Leads s (s.skip n) := by
  refine ⟨rfl, rfl, ?_, id⟩
  rw [rest_skip]
  exact List.drop_suffix _ _

end Lexer.Leads

namespace Scan

/-- Whether a scan, when it succeeds or fails, only goes on, and all it answers has a property. -/
def Runs (p : Scan α) (P : α → Prop) : Prop :=
  ∀ s, match p s with
    | .ok a s' => Lexer.Leads s s' ∧ P a
    | .error _ s' => Lexer.Leads s s'

namespace Runs

variable {p : Scan α} {P Q : α → Prop}

theorem pure {a : α} (h : P a) : Runs (Pure.pure a) P := fun s => ⟨.refl s, h⟩

theorem bind {f : α → Scan β} {P : β → Prop} (hp : Runs p Q) (hf : ∀ a, Q a → Runs (f a) P) :
    Runs (p >>= f) P := by
  intro s
  have hs := hp s
  rw [bind_apply]
  split at hs
  next a s₁ hok =>
    have hs₁ := hf a hs.2 s₁
    rw [hok]
    dsimp only
    split at hs₁
    next hok' =>
      rw [hok']
      exact ⟨hs.1.trans hs₁.1, hs₁.2⟩
    next herror =>
      rw [herror]
      exact hs.1.trans hs₁
  next d s₁ herror =>
    rw [herror]
    exact hs

/-- A step whose answer does not matter. -/
theorem skip {f : α → Scan β} {P : β → Prop} (hp : Runs p Q) (hf : ∀ a, Runs (f a) P) :
    Runs (p >>= f) P := hp.bind fun a _ => hf a

theorem throw (d : Diagnostic) : Runs (MonadExcept.throw d : Scan α) P := fun s => .refl s

theorem ite {c : Prop} [Decidable c] {q : Scan α} (hp : Runs p P) (hq : Runs q P) :
    Runs (if c then p else q) P := by
  split
  · exact hp
  · exact hq

/-- A scan that is made or not, and what follows in both cases. -/
theorem when {c : Prop} [Decidable c] {q : Scan β} {Q : β → Prop} (hq : Runs q Q) (hp : Runs p P) :
    Runs (if c then q >>= fun _ => p else p) P := ite (hq.skip fun _ => hp) hp

/-- A scan that only looks. -/
theorem look {f : Lexer → α} :
    Runs (do return f (← get)) fun _ => True := fun s => ⟨.refl s, trivial⟩

theorem get : Runs (MonadState.get : Scan Lexer) fun _ => True := fun s => ⟨.refl s, trivial⟩

end Runs

theorem fail_runs (offset : Nat) (fault : Fault) :
    Runs (fail offset fault : Scan α) fun _ => True :=
  .throw _

theorem position_runs : Runs position fun _ => True := .look

theorem peekAt_runs (n : Nat) : Runs (peekAt n) fun _ => True := .look

theorem peek_runs : Runs peek fun _ => True := peekAt_runs 0

theorem slice_runs (lo hi : Nat) : Runs (slice lo hi) fun _ => True := .look

theorem advance_runs (n : Nat) : Runs (advance n) fun _ => True := by
  refine fun s => ⟨⟨rfl, rfl, ?_, id⟩, trivial⟩
  have hrest : ({ s with pos := min (s.pos + n) s.source.size } : Lexer).rest = s.rest.drop n := by
    rw [Lexer.rest, Lexer.rest, List.drop_drop]
    by_cases h : s.pos + n ≤ s.source.size
    · rw [Nat.min_eq_left h]
    · have hlength : s.source.toList.length = s.source.size := Array.length_toList
      rw [Nat.min_eq_right (Nat.le_of_not_le h), List.drop_eq_nil_of_le (Nat.le_of_eq hlength),
        List.drop_eq_nil_of_le (by omega)]
  rw [hrest]
  exact List.drop_suffix _ _

theorem eat_runs (c : Char) : Runs (eat c) fun _ => True :=
  peek_runs.skip fun _ => .ite ((advance_runs 1).skip fun _ => .pure trivial) (.pure trivial)

theorem note_runs (offset : Nat) (fault : Fault) : Runs (note offset fault) fun _ => True :=
  fun _ => ⟨⟨rfl, rfl, List.suffix_refl _, fun _ => Array.push_ne_empty⟩, trivial⟩

theorem noteInModule_runs (offset : Nat) (fault : Fault) :
    Runs (noteInModule offset fault) fun _ => True :=
  Runs.get.skip fun _ => .ite (note_runs offset fault) fun _ => ⟨.stay rfl rfl rfl rfl, trivial⟩

theorem noteIfStrict_runs (offset : Nat) (fault : Fault) :
    Runs (noteIfStrict offset fault) fun _ => True :=
  Runs.get.skip fun _ => .ite (note_runs offset fault) (noteInModule_runs offset fault)

end Scan

namespace Lexer

open Scan

/-! ## Numbers -/

theorem digits_accumulate_runs (base : Nat) (goesOn : List Char → Bool) (start fuel : Nat)
    (read : List Char) :
    Runs (digits.accumulate base goesOn start fuel read) fun _ => True := by
  induction fuel generalizing read with
  | zero => exact .pure trivial
  | succ fuel ih =>
    refine .ite (.pure trivial) (peek_runs.skip fun c => ?_)
    cases c with
    | none => exact .pure trivial
    | some c =>
      have hmore (read : List Char) := (advance_runs 1).skip fun _ => ih read
      refine .ite ?_ (.ite (hmore _) (.pure trivial))
      exact (peekAt_runs 1).skip fun _ => .when (note_runs _ _) (hmore read)

theorem allDigits_runs (base : Nat) : Runs (allDigits base) fun _ => True :=
  position_runs.skip fun _ => Runs.get.skip fun _ => digits_accumulate_runs _ _ _ _ _

theorem refuseName_runs : Runs refuseName fun _ => True := by
  refine peek_runs.skip fun c => ?_
  cases c with
  | none => exact .pure trivial
  | some c => exact .ite (position_runs.skip fun _ => fail_runs _ _) (.pure trivial)

theorem numberFrom_runs (start : Nat) : Runs (numberFrom start) Token.IsBare :=
  refuseName_runs.skip fun _ => position_runs.skip fun _ => (slice_runs _ _).skip fun raw =>
    .pure (.number raw)

theorem bigint_runs (start : Nat) :
    Runs (do return .bigint (← slice start (← position)) : Scan Token) Token.IsBare :=
  position_runs.skip fun _ => (slice_runs _ _).skip fun raw => .pure (.bigint raw)

theorem markedNumber_runs (start base : Nat) : Runs (markedNumber start base) Token.IsBare := by
  refine (advance_runs 2).skip fun _ => position_runs.skip fun digitsStart => ?_
  refine (allDigits_runs base).skip fun ds => ?_
  have hbehind : Runs (do
      if ← eat 'n' then return .bigint (← slice start (← position))
      numberFrom start : Scan Token) Token.IsBare :=
    (eat_runs 'n').skip fun _ => .ite (bigint_runs start) (numberFrom_runs start)
  exact .ite ((fail_runs _ _).skip fun _ => hbehind) hbehind

theorem decimalTail_runs (start : Nat) : Runs (decimalTail start) Token.IsBare := by
  refine (eat_runs '.').skip fun _ => ?_
  extract_lets behind exponent fraction
  have hbehind : Runs (behind ()) Token.IsBare := numberFrom_runs start
  have hexponent : Runs (exponent ()) Token.IsBare := by
    refine position_runs.skip fun _ => (allDigits_runs 10).skip fun _ => .ite ?_ hbehind
    exact (fail_runs _ _).skip fun _ => hbehind
  have hfraction : Runs (fraction ()) Token.IsBare := by
    refine peek_runs.skip fun _ => .ite ((advance_runs 1).skip fun _ => peek_runs.skip fun c => ?_)
      hbehind
    cases c with
    | none => exact position_runs.skip fun _ => (fail_runs _ _).skip fun _ => hbehind
    | some c => exact .when (advance_runs 1) hexponent
  exact .when (allDigits_runs 10) hfraction

theorem number_runs : Runs number Token.IsBare := by
  refine position_runs.skip fun start => peek_runs.skip fun c => (peekAt_runs 1).skip fun d => ?_
  split
  · exact decimalTail_runs start
  · exact markedNumber_runs start 16
  · exact markedNumber_runs start 16
  · exact markedNumber_runs start 8
  · exact markedNumber_runs start 8
  · exact markedNumber_runs start 2
  · exact markedNumber_runs start 2
  · refine (allDigits_runs 10).skip fun ds => (eat_runs 'n').skip fun _ => ?_
    refine .ite (bigint_runs start) (position_runs.skip fun _ => ?_)
    refine .ite (decimalTail_runs start) (.ite ?_ ?_)
    · refine (numberFrom_runs start).bind fun token htoken => ?_
      exact (noteIfStrict_runs _ _).skip fun _ => .pure htoken
    · exact (noteIfStrict_runs _ _).skip fun _ => decimalTail_runs start

/-! ## Tokens -/

variable {s : Lexer} {c : Char} {behind : List Char}

/-- Whether a scan stands in front of a bare text, outside braces and templates. -/
structure Bare (s : Lexer) : Prop where
  regexAt : s.regexAt = none
  nests : s.nests = []
  rest : ∀ c ∈ s.rest, isBare c = true

theorem Bare.of_leads {s' : Lexer} (h : Bare s) (hs : Leads s s') : Bare s' where
  regexAt := hs.regexAt.trans h.regexAt
  nests := hs.nests.trans h.nests
  rest c hc := h.rest c (hs.rest.subset hc)

theorem Bare.isInTemplate (h : Bare s) : isInTemplate s = false := by
  rw [Lexer.isInTemplate, h.nests]
  rfl

/-- What a token of a bare text is, and what becomes of a flaw that lies ahead: it is this token, or
it still lies ahead. -/
structure Takes (s : Lexer) (o : Option Token) (s' : Lexer) : Prop where
  leads : Leads s s'
  isBare : ∀ t ∈ o, t.IsBare
  ends : o = none → s'.rest = []
  stray : HasStray s.rest → (∃ t ∈ o, t.isFlawed = true) ∨ HasStray s'.rest

/-- Whether reading a token, as far as it can be read, takes it from the text. -/
def TakesBy (s : Lexer) (read : Scan (Option Token)) : Prop :=
  match read s with
  | .ok o s' => Takes s o s'
  | .error _ s' => Leads s s'

theorem takesBy_ok {read : Scan (Option Token)} {o : Option Token} {s' : Lexer}
    (h : read s = .ok o s') (ho : Takes s o s') : TakesBy s read := by
  unfold TakesBy
  rw [h]
  exact ho

theorem takesBy_error {read : Scan (Option Token)} {d : Diagnostic} {s' : Lexer}
    (h : read s = .error d s') (hd : Leads s s') : TakesBy s read := by
  unfold TakesBy
  rw [h]
  exact hd

/-- A look at the text ahead comes first. -/
theorem takesBy_then {x : Scan α} {f : α → Scan (Option Token)} {a : α} (h : x s = .ok a s)
    (hf : TakesBy s (f a)) : TakesBy s (x >>= f) := by
  unfold TakesBy
  rw [bind_ok h]
  exact hf

theorem takesBy_ite {p : Prop} [Decidable p] {x y : Scan (Option Token)} (hx : p → TakesBy s x)
    (hy : ¬ p → TakesBy s y) : TakesBy s (if p then x else y) := by
  split
  · next h => exact hx h
  · next h => exact hy h

/-- A scan that only goes on, where no flaw lies ahead. -/
theorem takesBy_runs {read : Scan Token} (h : Runs read Token.IsBare) (hno : ¬ HasStray s.rest) :
    TakesBy s (some <$> read) := by
  have hs := h s
  unfold TakesBy
  rw [map_apply]
  split at hs
  next t s' hok =>
    rw [hok]
    refine ⟨hs.1, ?_, nofun, fun hstray => absurd hstray hno⟩
    rintro _ ⟨⟩
    exact hs.2
  next d s' herror =>
    rw [herror]
    exact hs

section

variable (hrest : s.rest = c :: behind)
include hrest

/-- A number starts with a digit, or with a point and a digit. -/
theorem takesBy_number (hc : c.isDigit = true ∨ c = '.' ∧ behind.head?.any Char.isDigit = true) :
    TakesBy s (some <$> number) := by
  refine takesBy_runs number_runs fun hstray => ?_
  rw [hrest] at hstray
  rcases hstray.cases_cons with hbad | ⟨hstart, -⟩ | ⟨rfl, hend, -⟩
  · rcases hc with hdigit | ⟨rfl, -⟩
    · rw [isDigit_of_isStray hbad] at hdigit
      cases hdigit
    · exact absurd (isStray_iff.1 hbad).1 (by decide)
  · rcases hc with hdigit | ⟨rfl, -⟩
    · rw [isDigit_of_isNameStart hstart] at hdigit
      cases hdigit
    · exact absurd hstart (by decide)
  · rcases hc with hdigit | ⟨-, hnext⟩
    · revert hdigit
      decide
    · obtain ⟨d, hd, hdigit⟩ := (Option.any_eq_true _ _).1 hnext
      rw [(hend rfl d hd).1] at hdigit
      cases hdigit

variable (hs : Bare s)
include hs

theorem takesBy_word (hc : isNameStart c = true) : TakesBy s (some <$> word) := by
  have happend : s.rest = s.rest.takeWhile isNamePart ++ s.rest.dropWhile isNamePart :=
    List.takeWhile_append_dropWhile.symm
  have hword : IsWord (s.rest.takeWhile isNamePart) := by
    refine ⟨⟨c, ?_, hc⟩, List.all_eq_true.1 List.all_takeWhile⟩
    rw [hrest, List.takeWhile_cons_of_pos (isNamePart_of_isNameStart hc)]
    rfl
  have hend : EndsWord (s.rest.dropWhile isNamePart) := by
    intro d hd
    have hmem : d ∈ s.rest := (List.dropWhile_suffix _).subset (List.mem_of_mem_head? hd)
    refine ⟨?_, ne_of_isBare (hs.rest d hmem) (by decide)⟩
    have hnot := List.head?_dropWhile_not isNamePart s.rest
    rw [Option.mem_def.1 hd] at hnot
    simpa using hnot
  refine takesBy_ok (map_ok (word_ok happend hword hend)) ⟨.skip s _, ?_, nofun, fun hstray => ?_⟩
  · rintro _ ⟨⟩
    refine .word ?_
    rw [String.toList_ofList]
    exact hword
  · rw [rest_skip_of_append happend, hrest]
    rw [hrest] at hstray
    rcases hstray.cases_cons with hbad | ⟨-, hmore⟩ | ⟨rfl, -⟩
    · rw [(isStray_iff.1 hbad).2] at hc
      cases hc
    · exact .inr hmore
    · exact absurd rfl (ne_of_isNameStart hc (by decide : isNameStart '.' = false))

theorem takesBy_mark (hc : isNameStart c = false) : TakesBy s (some <$> mark) := by
  cases hfound : marks.find? (isPrefix · s.rest) with
  | none =>
    let d : Diagnostic := ⟨s.pos, .unexpectedCharacter (Quoted.quotedChar c)⟩
    have hmark : mark s = .error d (s.skip 1) := by
      refine then_ok (position_ok s) (then_ok (findM?_isAhead s marks) ?_)
      rw [hfound]
      exact then_ok (peek_cons hrest) (then_ok (advance_one hrest) rfl)
    have hsome : (some <$> mark) s = .error d (s.skip 1) := by
      rw [map_apply, hmark]
    exact takesBy_error hsome (.skip s 1)
  | some m =>
    have hmem := List.mem_of_find?_eq_some hfound
    have hprefix : isPrefix m s.rest = true := List.find?_some (p := (isPrefix · s.rest)) hfound
    have htake : s.rest.take m.length = m.toList := eq_of_beq hprefix
    have hall : ∀ m ∈ marks, 0 < m.length ∧ m.toList.head?.any (fun c => c.toNat < 128) = true ∧
        (m.toList.head?.any isBare = true → m ∈ bareMarks) := by decide
    obtain ⟨hpos, hascii, hmark⟩ := hall m hmem
    have hhead : m.toList.head? = some c := by
      rw [← htake, hrest, List.head?_take, if_neg (Nat.ne_of_gt hpos)]
      rfl
    rw [hhead] at hascii hmark
    have hlength : m.length ≤ s.rest.length := by
      have h := congrArg List.length htake
      rw [List.length_take, String.length_toList] at h
      omega
    have hok : mark s = .ok (.mark m) (s.skip m.length) := by
      refine then_ok (position_ok s) (then_ok (findM?_isAhead s marks) ?_)
      rw [hfound]
      exact then_ok (advance_ok hlength hpos) rfl
    refine takesBy_ok (map_ok hok) ⟨.skip s _, ?_, nofun, fun hstray => ?_⟩
    · rintro _ ⟨⟩
      exact .mark (hmark (hs.rest c (by rw [hrest]; exact List.mem_cons_self)))
    · rw [hrest] at hstray
      rcases hstray.cases_cons with hbad | ⟨hstart, -⟩ | ⟨rfl, hend, hmore⟩
      · have hlt : c.toNat < 128 := by simpa using hascii
        have hge := (isStray_iff.1 hbad).1
        omega
      · rw [hc] at hstart
        cases hstart
      · have hpoint := find?_marks (m := ".") (by decide) hend
        rw [hrest] at hfound
        cases Option.some.inj (hfound.symm.trans hpoint)
        exact .inr (by rw [rest_skip, hrest]; exact hmore)

theorem takesBy_plainToken : TakesBy s plainToken := by
  have hbare : isBare c = true := hs.rest c (by rw [hrest]; exact List.mem_cons_self)
  have hother {d : Char} (hd : isBare d = false) : c ≠ d := ne_of_isBare hbare hd
  have hmarker : refuseConflictMarker s = .ok () s := by
    refine refuseConflictMarker_ok ?_
    rw [hrest]
    rintro _ ⟨⟩
    exact (isBare_iff.1 hbare).1
  have hpeek := peek_cons hrest
  have hnull : ¬ (c == '\x00') = true := by simpa using hother (by decide)
  have hquotes : ¬ (c == '"' || c == '\'') = true := by
    simpa using ⟨hother (by decide), hother (by decide)⟩
  have hnext : peekAt 1 s = .ok behind.head? s := by
    rw [peekAt_ok, hrest, List.getElem?_cons_succ, ← List.head?_eq_getElem?]
  refine takesBy_then hmarker (takesBy_then hpeek ?_)
  refine takesBy_ite (absurd · hnull) fun _ => takesBy_ite (absurd · hquotes) fun _ => ?_
  refine takesBy_ite (fun hdigit => takesBy_number hrest (.inl hdigit)) fun _ => ?_
  refine takesBy_then hnext
    (takesBy_ite (fun hpoint => ?_) fun _ => takesBy_ite (fun hstart => ?_) ?_)
  · rw [Bool.and_eq_true, beq_iff_eq] at hpoint
    refine takesBy_number hrest (.inr ⟨hpoint.1, ?_⟩)
    have hdigit := hpoint.2
    cases hd : behind.head? with
    | none =>
      rw [hd] at hdigit
      cases hdigit
    | some d =>
      rw [hd] at hdigit
      exact hdigit
  · have hslash : c ≠ '\\' := hother (by decide)
    exact takesBy_word hrest hs (by simpa [hslash] using hstart)
  · intro hstart
    rw [Bool.or_eq_true, not_or, Bool.not_eq_true] at hstart
    exact takesBy_mark hrest hs hstart.1

end

theorem takesBy_tokenBody (hs : Bare s) : TakesBy s tokenBody := by
  cases hrest : s.rest with
  | nil =>
    have hpeek : peek s = .ok none s := by
      rw [peek_ok, hrest]
      rfl
    refine takesBy_ok (then_ok hpeek rfl) ⟨.refl s, nofun, fun _ => hrest, fun hstray => ?_⟩
    exact absurd hrest hstray.ne_nil
  | cons c behind =>
    refine takesBy_then (peek_cons hrest) (takesBy_ite nofun fun _ => takesBy_then (get_ok s) ?_)
    refine takesBy_ite (fun h => ?_) fun _ => takesBy_plainToken hrest hs
    rw [hs.isInTemplate] at h
    cases h

/-- What cannot be read is a flawed token. -/
theorem attempt_takes {read : Scan (Option Token)} (h : TakesBy s read) :
    ∃ o s', next.attempt read s = .ok o s' ∧ Takes s o s' := by
  unfold TakesBy at h
  split at h
  next o s' hok => exact ⟨o, s', try_ok hok, h⟩
  next d s' herror =>
    let stop :=
      if d.fault.isPoint then d.offset
      else if d.fault == .conflictMarker then d.offset + 7
      else s'.pos
    have hok : next.attempt read s = .ok (some (.flawed d stop)) s' := by
      refine (tryCatch_apply _ _ _).trans ?_
      rw [herror]
      rfl
    refine ⟨_, s', hok, h, ?_, nofun, fun _ => .inl ⟨.flawed d stop, rfl, rfl⟩⟩
    rintro _ ⟨⟩
    exact .flawed d stop

/-- The marks of bare texts enclose nothing. -/
theorem enter_bare {t : Token} (ht : t.IsBare) (lo : Nat) (s : Lexer) : enter lo s t = s := by
  cases ht with
  | mark hm =>
    simp only [bareMarks, List.mem_cons, List.not_mem_nil, or_false] at hm
    rcases hm with rfl | rfl | rfl <;> rfl
  | _ => rfl

theorem finish_bare (lo : Nat) {o : Option Token} (ho : ∀ t ∈ o, t.IsBare) (s : Lexer) :
    ∃ p s', next.finish lo o s = .ok p s' ∧ p.map (·.token) = o ∧ Leads s s' ∧
      s'.rest = s.rest := by
  cases o with
  | none =>
    obtain ⟨s', hsettle, hleads, hrest⟩ :
        ∃ s', settleAtEnd s = .ok () s' ∧ Leads s s' ∧ s'.rest = s.rest := by
      refine ⟨_, rfl, ?_⟩
      dsimp only
      split <;> exact ⟨.stay rfl rfl rfl rfl, rfl⟩
    by_cases hend : s.rest.head?.isNone = true
    · exact ⟨none, s', then_ok (peek_ok s) (if_ok hend (then_ok hsettle rfl)), rfl, hleads, hrest⟩
    · exact ⟨none, s, then_ok (peek_ok s) (else_ok hend rfl), rfl, .refl s, rfl⟩
  | some t =>
    obtain ⟨s₁, hsettle, hs₁⟩ : ∃ s₁, settlePending lo s = .ok () s₁ ∧ s₁.regexAt = s.regexAt ∧
        s₁.nests = s.nests ∧ s₁.rest = s.rest ∧ s₁.faults = s.faults := ⟨_, rfl, rfl, rfl, rfl, rfl⟩
    obtain ⟨hregex, hnests, hrest, hfaults⟩ := hs₁
    refine ⟨some ⟨t, lo, s₁.pos, s₁.lineBreak⟩, _,
      then_ok hsettle (then_ok (get_ok s₁) rfl), rfl, ?_⟩
    rw [enter_bare (ho t rfl)]
    exact ⟨.stay hregex hnests hrest hfaults, hrest⟩

/-- One token of a bare text. -/
theorem next_bare (h : Bare s) :
    ∃ p s', next s = .ok p s' ∧ Takes s (p.map (·.token)) s' := by
  have hhead : ∀ c ∈ s.rest.head?, startsPlainly c = true := fun c hc =>
    (isBare_iff.1 (h.rest c (List.mem_of_mem_head? hc))).1
  have hshebang : s.rest.head? ≠ some '#' := by
    intro hc
    exact absurd (hhead _ hc) (by decide)
  rw [next_eq h.regexAt hshebang]
  obtain ⟨s₁, hstart, hs₁⟩ := tokenStart_ok false (s.rest.nil_append).symm hhead h.isInTemplate
  obtain ⟨hleads, hrest⟩ : Leads s s₁ ∧ s₁.rest = s.rest := by
    rw [hs₁]
    exact ⟨.stay rfl rfl rfl rfl, rfl⟩
  obtain ⟨o, s₂, hattempt, htakes⟩ := attempt_takes (takesBy_tokenBody (h.of_leads hleads))
  obtain ⟨p, s', hfinish, rfl, hleads', hrest'⟩ := finish_bare s₁.pos htakes.isBare s₂
  refine ⟨p, s', then_ok hstart (then_ok hattempt hfinish), ?_, htakes.isBare, ?_, ?_⟩
  · exact (hleads.trans htakes.leads).trans hleads'
  · exact fun hp => hrest'.trans (htakes.ends hp)
  · rw [hrest']
    exact hrest ▸ htakes.stray

end Lexer

end LoopGuard
