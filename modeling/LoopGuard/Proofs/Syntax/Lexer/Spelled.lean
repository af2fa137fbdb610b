import LoopGuard.Proofs.Syntax.Lexer.Literals

/-!
# Spelled tokens

Some tokens can be written in one way that reads back as the token whatever else stands in the text:
names without escapes, quoted strings, whole numbers, and marks that no longer mark starts with. A
text that is spelled from such tokens is read as these tokens.

Results:
* `Lexer.plainToken_ok`: a spelled token is read as it was spelled.
* `Lexer.Spelled.word`, `Lexer.Spelled.quoted`, `Lexer.Spelled.number`, `Lexer.Spelled.mark`:
  spelled texts, put together from the end.
* `Lexer.next_ok`, `Lexer.next_end`: the tokens of a spelled text, one after the other.
-/

namespace LoopGuard

/-- Whether the token is one that could not be read. -/
def Token.isFlawed : Token → Bool
  | flawed _ _ => true
  | _ => false

namespace Lexer

open Scan

variable {s : Lexer} {cs behind : List Char}

/-! ## Words -/

/-- Whether a word is over where these characters follow. -/
def EndsWord (behind : List Char) : Prop := ∀ c ∈ behind.head?, isNamePart c = false ∧ c ≠ '\\'

theorem endsWord_cons {c : Char} (hc : isNamePart c = false ∧ c ≠ '\\') :
    EndsWord (c :: behind) := by
  rintro _ ⟨⟩
  exact hc

theorem nameText_accumulate_ok {fuel : Nat} (parts : List (List Char))
    (hs : s.rest = cs ++ behind) (hcs : ∀ c ∈ cs, isNamePart c = true) (hbehind : EndsWord behind)
    (hfuel : cs.length < fuel) :
    nameText.accumulate fuel parts false s =
      .ok (String.ofList (parts.reverse.flatten ++ cs), false) (s.skip cs.length) := by
  induction cs generalizing s parts fuel with
  | nil =>
    cases fuel with
    | zero => cases hfuel
    | succ fuel =>
      refine then_ok (peek_ok s) ?_
      rw [hs, List.nil_append, List.append_nil]
      cases hc : behind.head? with
      | none => rfl
      | some c =>
        obtain ⟨hpart, hslash⟩ := hbehind c hc
        generalize ho : some c = o
        split
        · exact absurd (Option.some.inj ho) hslash
        · cases ho
          exact else_ok (by simp [hpart]) rfl
        · cases ho
  | cons c cs ih =>
    cases fuel with
    | zero => cases hfuel
    | succ fuel =>
      rw [List.forall_mem_cons] at hcs
      have hslash : c ≠ '\\' := by
        rintro rfl
        exact absurd hcs.1 (by decide)
      refine then_ok (peek_cons hs) ?_
      generalize ho : some c = o
      split
      · exact absurd (Option.some.inj ho) hslash
      · cases ho
        refine if_ok hcs.1 (then_ok (advance_one hs) ?_)
        rw [ih _ (rest_skip_one hs) hcs.2 (by simpa using hfuel)]
        simp [Nat.add_comm]
      · cases ho

/-- A name as it stands in a text that has no escapes. -/
structure IsWord (cs : List Char) : Prop where
  start : ∃ c ∈ cs.head?, isNameStart c = true
  part : ∀ c ∈ cs, isNamePart c = true

instance : Decidable (IsWord cs) :=
  decidable_of_iff (cs.head?.any isNameStart = true ∧ cs.all isNamePart = true)
    ⟨fun h => ⟨(Option.any_eq_true _ _).1 h.1, List.all_eq_true.1 h.2⟩,
      fun h => ⟨(Option.any_eq_true _ _).2 h.start, List.all_eq_true.2 h.part⟩⟩

theorem word_ok (hs : s.rest = cs ++ behind) (hcs : IsWord cs) (hbehind : EndsWord behind) :
    word s = .ok (.word (String.ofList cs)) (s.skip cs.length) := by
  obtain ⟨c, hc, hstart⟩ := hcs.start
  have hslash : s.rest.head? ≠ some '\\' := by
    intro h
    rw [hs, List.head?_append, hc] at h
    cases h
    revert hstart
    decide
  have hsize := length_rest s
  rw [hs, List.length_append] at hsize
  have htext : nameText s = .ok (String.ofList cs, false) (s.skip cs.length) :=
    then_ok (get_ok s) (then_ok (position_ok s)
      (nameText_accumulate_ok [] hs hcs.part hbehind (by omega)))
  refine then_ok (position_ok s) (then_ok (peek_ok s) (then_ok htext (else_ok ?_ ?_)))
  · simpa using hslash
  · exact then_ok (get_ok _) (else_ok Bool.false_ne_true rfl)

/-! ## Marks -/

/-- Marks that stand for themselves, the point where no digit and no other point follows. -/
def plainMarks : List String := ["(", ")", "\x7b", "\x7d", ",", ";", ":", "."]

/-- Whether a mark is over where these characters follow. -/
def EndsMark (m : String) (behind : List Char) : Prop :=
  m = "." → ∀ c ∈ behind.head?, c.isDigit = false ∧ c ≠ '.'

theorem find?_marks {m : String} (hm : m ∈ plainMarks) (hbehind : EndsMark m behind) :
    marks.find? (isPrefix · (m.toList ++ behind)) = some m := by
  unfold plainMarks at hm
  simp only [List.mem_cons, List.not_mem_nil, or_false] at hm
  rcases hm with rfl | rfl | rfl | rfl | rfl | rfl | rfl | rfl
  case inr.inr.inr.inr.inr.inr.inr =>
    have hdots : isPrefix "..." ('.' :: behind) = false := by
      rw [Bool.eq_false_iff]
      intro h
      have htake : ('.' :: behind).take 3 = ['.', '.', '.'] := eq_of_beq h
      cases behind with
      | nil => cases htake
      | cons c behind =>
        rw [List.take_succ_cons, List.take_succ_cons, List.cons.injEq, List.cons.injEq] at htake
        exact (hbehind rfl c rfl).2 htake.2.1
    show marks.find? (isPrefix · ('.' :: behind)) = _
    unfold marks
    rw [List.find?_cons_of_neg (by exact Bool.false_ne_true),
      List.find?_cons_of_neg (by simp [hdots])]
    rfl
  all_goals rfl

theorem mark_ok {m : String} (hm : m ∈ plainMarks) (hs : s.rest = m.toList ++ behind)
    (hbehind : EndsMark m behind) : mark s = .ok (.mark m) (s.skip m.toList.length) := by
  have hlength : m.length ≤ s.rest.length := by
    rw [hs, List.length_append, String.length_toList]
    exact Nat.le_add_right _ _
  have hpos : 0 < m.length := by
    have hall : ∀ m ∈ plainMarks, 0 < m.length := by decide
    exact hall m hm
  refine then_ok (position_ok s) ?_
  refine then_ok (findM?_isAhead s marks) ?_
  rw [hs, find?_marks hm hbehind]
  exact then_ok (advance_ok hlength hpos) rfl

/-! ## Tokens -/

/-- How a token can be written in front of other characters so that it is read as it stands. -/
inductive Spells : Token → List Char → List Char → Prop where
  | word {cs behind : List Char} (hcs : IsWord cs) (hbehind : EndsWord behind) :
      Spells (.word (String.ofList cs)) cs behind
  | string (cs behind : List Char) :
      Spells (.string (String.ofList cs) (String.ofList (Json.quoteChars cs))) (Json.quoteChars cs)
        behind
  | number {cs behind : List Char} (hcs : IsNumeral cs)
      (hbehind : ∀ c ∈ behind.head?, EndsNumber c) : Spells (.number (String.ofList cs)) cs behind
  | mark {m : String} {behind : List Char} (hm : m ∈ plainMarks) (hbehind : EndsMark m behind) :
      Spells (.mark m) m.toList behind

variable {t : Token}

theorem Spells.startsPlainly (h : Spells t cs behind) :
    ∃ c ∈ cs.head?, Lexer.startsPlainly c = true := by
  cases h with
  | word hcs =>
    obtain ⟨c, hc, hstart⟩ := hcs.start
    exact ⟨c, hc, startsPlainly_of_isNameStart hstart⟩
  | string => exact ⟨'"', rfl, by decide⟩
  | number hcs =>
    cases cs with
    | nil => exact absurd rfl hcs.ne_nil
    | cons c cs =>
      have hdigit := hcs.isDigit c List.mem_cons_self
      exact ⟨c, rfl, of_isDigit (p := (Lexer.startsPlainly · = true)) (by decide) hdigit⟩
  | @mark m _ hm =>
    have hall : ∀ m ∈ plainMarks, m.toList.head?.any Lexer.startsPlainly = true := by decide
    exact (Option.any_eq_true _ _).1 (hall m hm)

/-- A spelled token is read. -/
theorem plainToken_ok (h : Spells t cs behind) (hs : s.rest = cs ++ behind) :
    plainToken s = .ok (some t) (s.skip cs.length) := by
  obtain ⟨c, hc, hplain⟩ := h.startsPlainly
  have hhead : s.rest.head? = some c := by rw [hs, List.head?_append, hc]; rfl
  have hmarker : refuseConflictMarker s = .ok () s := by
    apply refuseConflictMarker_ok
    rw [hhead]
    rintro _ ⟨⟩
    exact hplain
  have hnull : c ≠ '\x00' := by
    rintro rfl
    revert hplain
    decide
  have hpeek : peek s = .ok (some c) s := by rw [peek_ok, hhead]
  refine then_ok hmarker (then_ok hpeek (else_ok (by simpa using hnull) ?_))
  have hsome {x : Scan Token} (hx : x s = .ok t (s.skip cs.length)) :
      (some <$> x) s = .ok (some t) (s.skip cs.length) := map_ok hx
  cases h with
  | word hcs hbehind =>
    obtain ⟨d, hd, hstart⟩ := hcs.start
    cases Option.some.inj (hc.symm.trans hd)
    have hdouble : c ≠ '"' := ne_of_isNameStart hstart (by decide)
    have hsingle : c ≠ '\'' := ne_of_isNameStart hstart (by decide)
    have hpoint : c ≠ '.' := ne_of_isNameStart hstart (by decide)
    refine else_ok (by simp [hdouble, hsingle]) (else_ok ?_ ?_)
    · simp [isDigit_of_isNameStart hstart]
    refine then_ok (peekAt_ok s 1) (else_ok (by simp [hpoint]) (if_ok (by simp [hstart]) ?_))
    exact hsome (word_ok hs hcs hbehind)
  | string =>
    cases hc
    exact if_ok rfl (hsome (string_ok hs))
  | number hcs hbehind =>
    have hdigit := hcs.isDigit c (List.mem_of_mem_head? hc)
    have hquotes : (c == '"' || c == '\'') = false :=
      of_isDigit (p := fun c => (c == '"' || c == '\'') = false) (by decide) hdigit
    exact else_ok (ne_true_of_eq_false hquotes) (if_ok hdigit (hsome (number_ok hs hcs hbehind)))
  | @mark m _ hm hbehind =>
    have hmark := hsome (mark_ok hm hs hbehind)
    have hall : ∀ m ∈ plainMarks,
      m.toList.head?.all (fun c => !(c == '"' || c == '\'') && !c.isDigit &&
        !(isNameStart c || c == '\\')) = true := by decide
    have hother := (Option.all_eq_true _ _).1 (hall m hm) c hc
    simp only [Bool.and_eq_true, Bool.not_eq_true'] at hother
    obtain ⟨⟨hquotes, hdigit⟩, hstart⟩ := hother
    refine else_ok (ne_true_of_eq_false hquotes) (else_ok (ne_true_of_eq_false hdigit) ?_)
    refine then_ok (peekAt_ok s 1) (else_ok ?_ (else_ok (ne_true_of_eq_false hstart) hmark))
    -- A point may start a number; what stands behind it here is no digit.
    by_cases hpoint : m = "."
    · have hnext : s.rest[1]? = behind.head? := by
        rw [hs, hpoint, List.head?_eq_getElem?]
        rfl
      rw [hnext]
      cases hd : behind.head? with
      | none => simp
      | some d => simp [(hbehind hpoint d hd).1]
    · have hnot : ∀ m ∈ plainMarks, m ≠ "." → m.toList.head? ≠ some '.' := by decide
      have hne : c ≠ '.' := by
        rintro rfl
        exact hnot m hm hpoint hc
      simp [hne]

/-! ## Texts -/

/-- How a text can be written, in which one blank may stand in front of a token. -/
inductive Spelled : List Token → List Char → Prop where
  | nil : Spelled [] []
  | cons {t : Token} {ts : List Token} {cs behind : List Char} (isWide : Bool)
      (h : Spells t cs behind) (hbehind : Spelled ts behind) :
      Spelled (t :: ts) (gap isWide ++ (cs ++ behind))

theorem Spells.ne_nil {t : Token} (h : Spells t cs behind) : cs ≠ [] := by
  rintro rfl
  obtain ⟨c, hc, -⟩ := h.startsPlainly
  cases hc

theorem Spelled.length_le {ts : List Token} (h : Spelled ts cs) : ts.length ≤ cs.length := by
  induction h with
  | nil => exact Nat.le_refl 0
  | cons isWide h hbehind ih =>
    have hpos := List.length_pos_iff.2 h.ne_nil
    rw [List.length_append, List.length_append, List.length_cons]
    omega

section

variable {ts : List Token} {w m : String}

theorem Spelled.word (isWide : Bool) (hw : IsWord w.toList) (hend : EndsWord behind)
    (h : Spelled ts behind) : Spelled (.word w :: ts) (gap isWide ++ (w.toList ++ behind)) := by
  have hword := Spells.word hw hend
  rw [String.ofList_toList] at hword
  exact .cons isWide hword h

theorem Spelled.quoted (v : String) (h : Spelled ts behind) :
    Spelled (.string v (Json.quote v) :: ts) ((Json.quote v).toList ++ behind) := by
  have hstring := Spells.string v.toList behind
  rw [String.ofList_toList] at hstring
  have h := Spelled.cons false hstring h
  rw [Json.quote, String.toList_ofList]
  exact h

theorem Spelled.number (n : Nat) (hend : ∀ c ∈ behind.head?, EndsNumber c) (h : Spelled ts behind) :
    Spelled (.number (Nat.repr n) :: ts) ((Nat.repr n).toList ++ behind) := by
  have hnumber := Spells.number (isNumeral_repr n) hend
  rw [String.ofList_toList] at hnumber
  exact .cons false hnumber h

theorem Spelled.mark (isWide : Bool) (hm : m ∈ plainMarks) (hne : m ≠ ".") (h : Spelled ts behind) :
    Spelled (.mark m :: ts) (gap isWide ++ (m.toList ++ behind)) :=
  .cons isWide (.mark hm fun hpoint => absurd hpoint hne) h

end

/-- Whether a scan goes on in a context as it always did: with no fault found, inside braces alone
and with no slash to go back to. -/
structure IsPlain (ctx : Context) (s : Lexer) : Prop where
  context : s.context = ctx
  regexAt : s.regexAt = none
  faults : s.faults = #[]
  nests : ∀ n ∈ s.nests, n = .brace

/-- Whether a scan stands in front of a spelled text. -/
structure Faces (ctx : Context) (ts : List Token) (s : Lexer) : Prop extends IsPlain ctx s where
  spelled : Spelled ts s.rest

variable {ctx : Context} {ts : List Token}

theorem IsPlain.isInTemplate (h : IsPlain ctx s) : isInTemplate s = false := by
  unfold Lexer.isInTemplate
  cases hn : s.nests with
  | nil => rfl
  | cons n ns =>
    rw [h.nests n (by rw [hn]; exact List.mem_cons_self)]
    rfl

theorem Spelled.head?_ne (h : Spelled ts cs) : cs.head? ≠ some '#' := by
  cases h with
  | nil => exact nofun
  | cons isWide h hbehind =>
    cases isWide with
    | true => simp [gap]
    | false =>
      obtain ⟨c, hc, hplain⟩ := h.startsPlainly
      intro hbad
      rw [gap, if_neg Bool.false_ne_true, List.nil_append, List.head?_append, hc] at hbad
      cases hbad
      exact absurd hplain (by decide)

theorem tokenBody_ok (h : IsPlain ctx s) (ht : Spells t cs behind) (hs : s.rest = cs ++ behind) :
    tokenBody s = .ok (some t) (s.skip cs.length) := by
  obtain ⟨c, hc, -⟩ := ht.startsPlainly
  have hpeek : peek s = .ok (some c) s := by
    rw [peek_ok, hs, List.head?_append, hc]
    rfl
  refine then_ok hpeek (else_ok (by simp) (then_ok (get_ok s) (else_ok ?_ (plainToken_ok ht hs))))
  rw [h.isInTemplate]
  exact Bool.false_ne_true

/-- What a token encloses is all that it changes. -/
theorem enter_same (lo : Nat) (s : Lexer) (t : Token) :
    (enter lo s t).rest = s.rest ∧ (enter lo s t).context = s.context ∧
      (enter lo s t).regexAt = s.regexAt ∧ (enter lo s t).faults = s.faults := by
  unfold enter
  split
  all_goals try split
  all_goals exact ⟨rfl, rfl, rfl, rfl⟩

/-- A spelled token encloses nothing but what stands in braces. -/
theorem IsPlain.enter (h : IsPlain ctx s) (ht : Spells t cs behind) (lo : Nat) :
    IsPlain ctx (enter lo s t) := by
  obtain ⟨-, hcontext, hregex, hfaults⟩ := enter_same lo s t
  refine ⟨hcontext.trans h.context, hregex.trans h.regexAt, hfaults.trans h.faults, ?_⟩
  have hopen : ∀ n ∈ Nest.brace :: s.nests, n = .brace := List.forall_mem_cons.2 ⟨rfl, h.nests⟩
  have hclose : ∀ n ∈ s.nests.tail, n = .brace := fun n hn => h.nests n (List.mem_of_mem_tail hn)
  cases ht with
  | word | string | number => exact h.nests
  | mark hm =>
    simp only [plainMarks, List.mem_cons, List.not_mem_nil, or_false] at hm
    rcases hm with rfl | rfl | rfl | rfl | rfl | rfl | rfl | rfl
    case inr.inr.inl => exact hopen
    case inr.inr.inr.inl => exact hclose
    all_goals exact h.nests

theorem finish_ok (h : IsPlain ctx s) (ht : Spells t cs behind) (lo : Nat) :
    ∃ p s', next.finish lo (some t) s = .ok (some p) s' ∧ p.token = t ∧ s'.rest = s.rest ∧
      IsPlain ctx s' := by
  obtain ⟨s₁, hs₁, hrest, hplain⟩ : ∃ s₁, settlePending lo s = .ok () s₁ ∧ s₁.rest = s.rest ∧
      IsPlain ctx s₁ := ⟨_, rfl, rfl, h.context, h.regexAt, h.faults, h.nests⟩
  obtain ⟨hcontext, hregex, hfaults, hnests⟩ := hplain.enter ht lo
  refine ⟨⟨t, lo, s₁.pos, s₁.lineBreak⟩, _, then_ok hs₁ (then_ok (get_ok s₁) rfl), rfl, ?_, ?_⟩
  · exact (enter_same lo s₁ t).1.trans hrest
  · exact ⟨hcontext, hregex, hfaults, hnests⟩

/-- The scan goes on like this where no slash and no first line come in between. -/
theorem next_eq (hregex : s.regexAt = none) (hs : s.rest.head? ≠ some '#') :
    next s = (do
      let start ← tokenStart
      next.finish start (← next.attempt tokenBody) : Scan (Option PlacedToken)) s := by
  refine then_ok (get_ok s) ?_
  rw [hregex]
  by_cases hfirst : s.isFirst = true
  · exact if_ok hfirst (then_ok (shebang_ok hs) rfl)
  · exact else_ok hfirst rfl

/-- The next token of a spelled text. -/
theorem next_ok (h : Faces ctx (t :: ts) s) :
    ∃ p s', next s = .ok (some p) s' ∧ p.token = t ∧ Faces ctx ts s' := by
  rw [next_eq h.regexAt h.spelled.head?_ne]
  generalize hrest : s.rest = rest
  have hspelled := h.spelled
  rw [hrest] at hspelled
  cases hspelled with
  | @cons _ _ cs behind isWide ht hbehind =>
    obtain ⟨c, hc, hplain⟩ := ht.startsPlainly
    have hhead : ∀ d ∈ (cs ++ behind).head?, startsPlainly d = true := by
      rw [List.head?_append, hc]
      rintro _ ⟨⟩
      exact hplain
    obtain ⟨s₁, hstart, hs₁⟩ := tokenStart_ok isWide hrest hhead h.isInTemplate
    have hplain₁ : IsPlain ctx s₁ := by
      rw [hs₁]
      exact ⟨h.context, h.regexAt, h.faults, h.nests⟩
    have hrest₁ : s₁.rest = cs ++ behind := by
      rw [hs₁]
      exact rest_skip_of_append hrest
    have hplain₂ : IsPlain ctx (s₁.skip cs.length) :=
      ⟨hplain₁.context, hplain₁.regexAt, hplain₁.faults, hplain₁.nests⟩
    obtain ⟨p, s', hfinish, htoken, hrest', hplain'⟩ := finish_ok hplain₂ ht s₁.pos
    refine ⟨p, s', ?_, htoken, hplain', ?_⟩
    · exact then_ok hstart (then_ok (try_ok (tokenBody_ok hplain₁ ht hrest₁)) hfinish)
    · rw [hrest', rest_skip_of_append hrest₁]
      exact hbehind

theorem settleAtEnd_ok (h : IsPlain ctx s) :
    ∃ s', settleAtEnd s = .ok () s' ∧ s'.rest = s.rest ∧ IsPlain ctx s' := by
  refine ⟨_, rfl, ?_⟩
  dsimp only
  split <;> exact ⟨rfl, h.context, h.regexAt, h.faults, h.nests⟩

theorem next_end (h : Faces ctx [] s) : ∃ s', next s = .ok none s' ∧ Faces ctx [] s' := by
  rw [next_eq h.regexAt h.spelled.head?_ne]
  have hrest : s.rest = [] := by
    generalize hrest : s.rest = rest
    have hspelled := h.spelled
    rw [hrest] at hspelled
    cases hspelled
    rfl
  obtain ⟨s₁, hstart, hs₁⟩ := tokenStart_ok false hrest nofun h.isInTemplate
  have hrest₁ : s₁.rest = [] := by
    rw [hs₁]
    exact hrest
  have hplain₁ : IsPlain ctx s₁ := by
    rw [hs₁]
    exact ⟨h.context, h.regexAt, h.faults, h.nests⟩
  have hpeek : peek s₁ = .ok none s₁ := by
    rw [peek_ok, hrest₁]
    rfl
  obtain ⟨s', hsettle, hrest', hplain'⟩ := settleAtEnd_ok hplain₁
  refine ⟨s', then_ok hstart (then_ok (try_ok (then_ok hpeek rfl)) ?_), hplain', ?_⟩
  · exact then_ok hpeek (if_ok rfl (then_ok hsettle rfl))
  · rw [hrest', hrest₁]
    exact .nil

end Lexer

end LoopGuard
