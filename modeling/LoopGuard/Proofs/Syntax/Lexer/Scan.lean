import LoopGuard.Syntax.Lexer.Next

/-!
# Where a scan stands

What a scan does is told by the characters in front of it. A step that succeeds answers something
and goes on behind some of them; what else it changes is told only where it counts.

Results:
* `Scan.bind_ok`: steps in a row.
* `Scan.peekAt_ok`, `Scan.advance_ok`, `Scan.slice_ok`: the moves.
* `Lexer.findM?_isAhead`: choosing a text that stands ahead.
-/

namespace LoopGuard

namespace Lexer

/-- The characters in front of a scan. -/
def rest (s : Lexer) : List Char := s.source.toList.drop s.pos

/-- The scan behind the next `n` characters. -/
def skip (s : Lexer) (n : Nat) : Lexer := { s with pos := s.pos + n }

@[simp] theorem rest_skip (s : Lexer) (n : Nat) : (s.skip n).rest = s.rest.drop n := by
  simp [rest, skip]

@[simp] theorem skip_skip (s : Lexer) (m n : Nat) : (s.skip m).skip n = s.skip (m + n) := by
  simp [skip, Nat.add_assoc]

theorem length_rest (s : Lexer) : s.rest.length = s.source.size - s.pos := by
  simp [rest]

/-- The scan behind characters that stand in front of it. -/
theorem rest_skip_of_append {s : Lexer} {cs behind : List Char} (h : s.rest = cs ++ behind) :
    (s.skip cs.length).rest = behind := by
  rw [rest_skip, h, List.drop_left]

theorem rest_skip_one {s : Lexer} {c : Char} {behind : List Char} (h : s.rest = c :: behind) :
    (s.skip 1).rest = behind := by
  rw [rest_skip, h]
  rfl

end Lexer

/-! ## Steps that can fail -/

section

variable {σ : Type} (x : EStateM Diagnostic σ α) (s : σ)

theorem bind_apply (f : α → EStateM Diagnostic σ β) :
    (x >>= f) s = match x s with
      | .ok a s' => f a s'
      | .error d s' => .error d s' := by
  change EStateM.bind x f s = _
  unfold EStateM.bind
  cases x s <;> rfl

theorem map_apply (f : α → β) :
    (f <$> x) s = match x s with
      | .ok a s' => .ok (f a) s'
      | .error d s' => .error d s' := by
  change EStateM.map f x s = _
  unfold EStateM.map
  cases x s <;> rfl

theorem tryCatch_apply (handle : Diagnostic → EStateM Diagnostic σ α) :
    tryCatch x handle s = match x s with
      | .ok a s' => .ok a s'
      | .error d s' => handle d s' := by
  change EStateM.tryCatch x handle s = _
  unfold EStateM.tryCatch
  cases x s <;> rfl

end

namespace Scan

variable {s s' : Lexer}

theorem bind_ok {x : Scan α} {f : α → Scan β} {a : α} (h : x s = .ok a s') :
    (x >>= f) s = f a s' := by
  rw [bind_apply, h]

theorem then_ok {x : Scan α} {f : α → Scan β} {a : α} {o : EStateM.Result Diagnostic Lexer β}
    (h : x s = .ok a s') (hf : f a s' = o) : (x >>= f) s = o :=
  (bind_ok h).trans hf

theorem if_ok {c : Prop} [Decidable c] {x y : Scan α} {o : EStateM.Result Diagnostic Lexer α}
    (hc : c) (hx : x s = o) : (if c then x else y) s = o := by
  rw [if_pos hc]
  exact hx

theorem else_ok {c : Prop} [Decidable c] {x y : Scan α} {o : EStateM.Result Diagnostic Lexer α}
    (hc : ¬ c) (hy : y s = o) : (if c then x else y) s = o := by
  rw [if_neg hc]
  exact hy

theorem try_ok {x : Scan α} {h : Diagnostic → Scan α} {a : α} (hx : x s = .ok a s') :
    (tryCatch x h) s = .ok a s' := by
  rw [tryCatch_apply, hx]

theorem map_ok {x : Scan α} {f : α → β} {a : α} (h : x s = .ok a s') :
    (f <$> x) s = .ok (f a) s' := by
  rw [map_apply, h]

theorem get_ok (s : Lexer) : (get : Scan Lexer) s = .ok s s := rfl

theorem position_ok (s : Lexer) : position s = .ok s.pos s := rfl

theorem peekAt_ok (s : Lexer) (n : Nat) : peekAt n s = .ok s.rest[n]? s := by
  have h : s.source[s.pos + n]? = s.rest[n]? := by simp [Lexer.rest]
  rw [← h]
  rfl

theorem peek_ok (s : Lexer) : peek s = .ok s.rest.head? s := by
  rw [List.head?_eq_getElem?]
  exact peekAt_ok s 0

theorem peek_cons {c : Char} {behind : List Char} (h : s.rest = c :: behind) :
    peek s = .ok (some c) s := by
  rw [peek_ok, h]
  rfl

theorem advance_ok {n : Nat} (h : n ≤ s.rest.length) (hn : 0 < n) :
    advance n s = .ok () (s.skip n) := by
  rw [Lexer.length_rest] at h
  have hmin : min (s.pos + n) s.source.size = s.pos + n := by omega
  show EStateM.Result.ok () { s with pos := min (s.pos + n) s.source.size } = _
  rw [hmin]
  rfl

theorem advance_one {c : Char} {behind : List Char} (h : s.rest = c :: behind) :
    advance 1 s = .ok () (s.skip 1) :=
  advance_ok (by rw [h]; exact Nat.le_add_left _ _) Nat.one_pos

theorem eat_self {c : Char} {behind : List Char} (h : s.rest = c :: behind) :
    eat c s = .ok true (s.skip 1) := by
  unfold eat
  rw [bind_ok (peek_cons h), beq_self_eq_true, if_pos rfl, bind_ok (advance_one h)]
  rfl

theorem eat_other {c : Char} (h : s.rest.head? ≠ some c) : eat c s = .ok false s := by
  unfold eat
  rw [bind_ok (peek_ok s), if_neg (by simpa using h)]
  rfl

/-- The characters that a scan has gone over since it stood at `s`. -/
theorem slice_ok {cs behind : List Char} (h : s.rest = cs ++ behind) (hs : s'.source = s.source) :
    slice s.pos (s.pos + cs.length) s' = .ok (String.ofList cs) s' := by
  have hslice : (s'.source.extract s.pos (s.pos + cs.length)).toList = cs := by
    rw [hs, Array.toList_extract, List.extract_eq_take_drop, Nat.add_sub_cancel_left]
    have hrest : s.source.toList.drop s.pos = cs ++ behind := h
    rw [hrest, List.take_left]
  show EStateM.Result.ok (String.ofList _) s' = _
  rw [hslice]

/-! ## Repetition -/

theorem repeatWhile_stop {step : Scan Bool} (h : step s = .ok false s') :
    repeatWhile step s = .ok () s' := by
  unfold repeatWhile
  rw [bind_ok (get_ok s), repeatFor_succ, bind_ok h]
  rfl

theorem repeatWhile_once {step : Scan Bool} {s₁ : Lexer} (h : step s = .ok true s₁)
    (h₁ : step s₁ = .ok false s') : repeatWhile step s = .ok () s' := by
  unfold repeatWhile
  rw [bind_ok (get_ok s), repeatFor_succ, bind_ok h, if_pos rfl, repeatFor_succ, bind_ok h₁]
  rfl

end Scan

namespace Lexer

open Scan

variable {s : Lexer}

/-! ## Texts ahead -/

/-- Whether a text stands in front of characters. -/
def isPrefix (text : String) (cs : List Char) : Bool := cs.take text.length == text.toList

theorem isAhead_ok (s : Lexer) (text : String) :
    isAhead text s = .ok (isPrefix text s.rest) s := by
  have htake : (s.source.extract s.pos (s.pos + text.length)).toList = s.rest.take text.length := by
    rw [Array.toList_extract, List.extract_eq_take_drop, Nat.add_sub_cancel_left]
    rfl
  show EStateM.Result.ok (_ == text.toList) s = _
  rw [htake]
  rfl

/-- A text does not stand in front of characters that start otherwise. -/
theorem isPrefix_eq_false {text : String} {d : Char} (htext : text.toList.head? = some d)
    {cs : List Char} (h : cs.head? ≠ some d) : isPrefix text cs = false := by
  rw [Bool.eq_false_iff]
  intro hprefix
  have htake : cs.take text.length = text.toList := by simpa [isPrefix] using hprefix
  rw [← htake, List.head?_take] at htext
  split at htext
  · cases htext
  · exact h htext

theorem findM?_isAhead (s : Lexer) (texts : List String) :
    texts.findM? isAhead s = .ok (texts.find? (isPrefix · s.rest)) s := by
  induction texts with
  | nil => rfl
  | cons text more ih =>
    unfold List.findM?
    rw [bind_ok (isAhead_ok s text), List.find?_cons]
    cases isPrefix text s.rest with
    | true => rfl
    | false => exact ih

/-! ## What separates tokens -/

/-- Whether a token that starts with this character is read as it stands: no blank, no comment, no
marker of a merge conflict and no line for the system. -/
def startsPlainly (c : Char) : Bool :=
  !isBlank c && !isLineBreak c && !(['/', '<', '-', '=', '>', '|', '#', '\x00'].contains c)

/-- One blank, or none. -/
def gap (isWide : Bool) : List Char := if isWide then [' '] else []

theorem startsPlainly_iff {c : Char} :
    startsPlainly c = true ↔ isBlank c = false ∧ isLineBreak c = false ∧
      c ∉ ['/', '<', '-', '=', '>', '|', '#', '\x00'] := by
  simp [startsPlainly, and_assoc]

/-- A step that goes over a blank and stops behind it. -/
theorem repeatWhile_gap {step : Scan Bool} {isWide : Bool} {cs : List Char}
    (hs : s.rest = gap isWide ++ cs) (hblank : s.rest = ' ' :: cs → step s = .ok true (s.skip 1))
    (hstop : ∀ s : Lexer, s.rest = cs → step s = .ok false s) :
    repeatWhile step s = .ok () (s.skip (gap isWide).length) := by
  cases isWide with
  | false => exact repeatWhile_stop (hstop s hs)
  | true => exact repeatWhile_once (hblank hs) (hstop _ (rest_skip_one hs))

theorem skipBlanks_ok {isWide : Bool} {cs : List Char} (hs : s.rest = gap isWide ++ cs)
    (hcs : ∀ c ∈ cs.head?, startsPlainly c = true) :
    skipBlanks s = .ok () (s.skip (gap isWide).length) := by
  apply repeatWhile_gap hs
  · intro hs
    rw [bind_ok (peek_cons hs)]
    show (if isLineBreak ' ' then _ else if isBlank ' ' then _ else _ : Scan Bool) s = _
    rw [if_neg (by decide), if_pos (by decide), bind_ok (advance_one hs)]
    rfl
  · intro s hs
    rw [bind_ok (peek_ok s), hs]
    cases hc : cs.head? with
    | none => rfl
    | some c =>
      obtain ⟨hblank, hbreak, -⟩ := startsPlainly_iff.1 (hcs c hc)
      simp only [hblank, hbreak]
      rfl

theorem skipTrivia_ok {isWide : Bool} {cs : List Char} (hs : s.rest = gap isWide ++ cs)
    (hcs : ∀ c ∈ cs.head?, startsPlainly c = true) :
    skipTrivia s = .ok () (s.skip (gap isWide).length) := by
  have hslash : cs.head? ≠ some '/' := by
    intro hc
    have := startsPlainly_iff.1 (hcs '/' hc)
    simp at this
  have hrest : (s.skip (gap isWide).length).rest = cs := rest_skip_of_append hs
  unfold skipTrivia
  refine repeatWhile_stop ?_
  rw [bind_ok (skipBlanks_ok hs hcs), bind_ok (peek_ok _), bind_ok (peekAt_ok _ 1), hrest]
  generalize cs.head? = c at hslash
  generalize cs[1]? = d
  split
  · exact absurd rfl hslash
  · exact absurd rfl hslash
  · rfl

/-- Texts that begin otherwise than a token does. -/
theorem isPrefix_of_startsPlainly {text : String} {d : Char} (htext : text.toList.head? = some d)
    (hd : d ∈ ['/', '<', '-', '=', '>', '|', '#', '\x00']) {cs : List Char}
    (hcs : ∀ c ∈ cs.head?, startsPlainly c = true) : isPrefix text cs = false := by
  refine isPrefix_eq_false htext fun hc => ?_
  exact (startsPlainly_iff.1 (hcs d hc)).2.2 hd

section

variable (hs : ∀ c ∈ s.rest.head?, startsPlainly c = true)
include hs

theorem skipLegacyComment_ok (start : Nat) : skipLegacyComment start s = .ok false s := by
  have hopens : isPrefix "<!--" s.rest = false := isPrefix_of_startsPlainly rfl (by decide) hs
  have hcloses : isPrefix "-->" s.rest = false := isPrefix_of_startsPlainly rfl (by decide) hs
  unfold skipLegacyComment
  rw [bind_ok (isAhead_ok s _), hopens, if_neg Bool.false_ne_true, bind_ok (get_ok s),
    bind_ok (isAhead_ok s _), hcloses, Bool.and_false, if_neg Bool.false_ne_true]
  rfl

theorem skipConflictMiddle_ok : skipConflictMiddle s = .ok false s := by
  have hmiddle : isPrefix "=======" s.rest = false := isPrefix_of_startsPlainly rfl (by decide) hs
  unfold skipConflictMiddle
  rw [bind_ok (get_ok s), bind_ok (isAhead_ok s _), hmiddle, Bool.and_false,
    if_neg Bool.false_ne_true]
  rfl

theorem refuseConflictMarker_ok : refuseConflictMarker s = .ok () s := by
  have hnone : conflictMarkers.find? (isPrefix · s.rest) = none := by
    rw [List.find?_eq_none]
    intro marker hmarker
    rw [Bool.not_eq_true]
    unfold conflictMarkers at hmarker
    simp only [List.mem_cons, List.not_mem_nil, or_false] at hmarker
    rcases hmarker with rfl | rfl | rfl <;> exact isPrefix_of_startsPlainly rfl (by decide) hs
  unfold refuseConflictMarker
  rw [bind_ok (findM?_isAhead s _), hnone, bind_ok (get_ok s), Option.isSome_none, Bool.and_false,
    if_neg Bool.false_ne_true]
  rfl

end

theorem shebang_ok (hs : s.rest.head? ≠ some '#') : shebang s = .ok none s := by
  have hline : isPrefix "#!" s.rest = false := isPrefix_eq_false rfl hs
  unfold shebang
  rw [bind_ok (isAhead_ok s _), hline]
  rfl

/-- Where a token starts, and the scan there. -/
theorem tokenStart_ok (isWide : Bool) {cs : List Char} (hs : s.rest = gap isWide ++ cs)
    (hcs : ∀ c ∈ cs.head?, startsPlainly c = true) (htemplate : isInTemplate s = false) :
    ∃ s', tokenStart s = .ok s'.pos s' ∧
      s' = ({ s with lineBreak := s.isFirst, isFirst := false } : Lexer).skip
        (gap isWide).length := by
  refine ⟨_, ?_, rfl⟩
  have hs' : ({ s with lineBreak := s.isFirst, isFirst := false } : Lexer).rest =
      gap isWide ++ cs := hs
  have hbehind : ∀ c ∈ (({ s with lineBreak := s.isFirst, isFirst := false } : Lexer).skip
      (gap isWide).length).rest.head?, startsPlainly c = true := by
    rw [rest_skip_of_append hs']
    exact hcs
  unfold tokenStart
  rw [bind_ok (get_ok s)]
  show (if isInTemplate s then _ else _ : Scan Nat)
    { s with lineBreak := s.isFirst, isFirst := false } = _
  rw [htemplate, if_neg Bool.false_ne_true, bind_ok (skipTrivia_ok hs' hcs),
    bind_ok (position_ok _)]
  refine bind_ok (repeatWhile_stop ?_)
  rw [bind_ok (skipLegacyComment_ok hbehind _), if_neg Bool.false_ne_true]
  exact skipConflictMiddle_ok hbehind

end Lexer

end LoopGuard
