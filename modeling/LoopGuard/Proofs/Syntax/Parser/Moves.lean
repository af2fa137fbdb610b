import LoopGuard.Proofs.Syntax.Parser.Carries

/-!
# Moves over a bare text

What a reader of a bare text does token by token. Looking at tokens passes over nothing, and a token
is only taken where it is known not to be flawed, or behind a fault that has been noted.

Results:
* `Parse.placed_looks`, `Parse.placedAhead_looks`: looking at the next token and the one behind it.
* `Parse.Carries.within`: steps in a changed context.
* `Parse.isAt_carries`, `Parse.note_carries`, `Parse.need_carries`: the elementary moves.
-/

namespace LoopGuard

namespace Parse

variable {k : Hint}

/-! ## Looking at tokens -/

/-- What a scan does that only goes on inside a reader that stays. -/
theorem looked_scan {r : Reader} (hr : r.Bare) {l : Lexer} (hleads : r.lexer.Leads l)
    (hrest : l.rest = r.lexer.rest) : Looked r { r with lexer := l } := by
  refine ⟨⟨hr.lexer.of_leads hleads, hr.current, hr.ahead⟩, hleads.faults, ?_, fun _ => id⟩
  rintro (h | h | h)
  · exact .inl h
  · exact .inr (.inl h)
  · exact .inr (.inr (by rw [hrest]; exact h))

/-- The next token of a reader that has read none. -/
theorem scan_next {r : Reader} (hr : r.Bare) :
    ∃ o l, scan Lexer.next r = .ok o { r with lexer := l } ∧ l.Bare ∧
      (∀ t ∈ o, t.token.IsBare) ∧ (r.lexer.faults ≠ #[] → l.faults ≠ #[]) ∧
      (o = none → l.rest = []) ∧
      (Lexer.HasStray r.lexer.rest →
        (∃ t ∈ o, t.token.isFlawed = true) ∨ Lexer.HasStray l.rest) := by
  obtain ⟨o, l, hnext, htakes⟩ := Lexer.next_bare hr.lexer
  refine ⟨o, l, ?_, hr.lexer.of_leads htakes.leads, ?_, htakes.leads.faults, ?_, fun hstray => ?_⟩
  · unfold scan
    rw [hnext]
  · exact fun t ht => htakes.isBare t.token (Option.mem_map_of_mem _ ht)
  · rintro rfl
    exact htakes.ends rfl
  · rcases htakes.stray hstray with ⟨t, ht, hflaw⟩ | hmore
    · obtain ⟨p, hp, rfl⟩ := Option.map_eq_some_iff.1 ht
      exact .inl ⟨p, hp, hflaw⟩
    · exact .inr hmore

/-- The current token is read, if there is one. -/
theorem placed_looks : Looks placed fun o r => o = r.current ∧
    (o = none → r.ahead = none ∧ r.lexer.rest = []) := by
  intro r hr
  obtain ⟨lexer, current, ahead⟩ := r
  cases current with
  | some p => exact ⟨_, _, rfl, .refl hr, rfl, nofun⟩
  | none =>
    cases ahead with
    | some p =>
      refine ⟨_, _, rfl,
        ⟨⟨hr.lexer, hr.ahead, forall_mem_none⟩, id, ?_, forall_mem_none⟩, rfl, nofun⟩
      rintro (⟨_, ⟨⟩, -⟩ | h | h)
      · exact .inl h
      · exact .inr (.inr h)
    | none =>
      obtain ⟨o, l, hnext, hbare, htokens, hnoted, hends, hstray⟩ := scan_next hr
      refine ⟨o, _, then_ok rfl (then_ok hnext rfl),
        ⟨⟨hbare, htokens, forall_mem_none⟩, hnoted, ?_, forall_mem_none⟩, rfl,
          fun h => ⟨rfl, hends h⟩⟩
      rintro (⟨_, ⟨⟩, -⟩ | ⟨_, ⟨⟩, -⟩ | h)
      rcases hstray h with h | h
      · exact .inl h
      · exact .inr (.inr h)

theorem peek_looks : Looks peek fun o r => o = r.current.map (·.token) :=
  .bind placed_looks fun o r hr ho => ⟨_, r, rfl, .refl hr, by rw [ho.1]⟩

theorem placedAhead_looks : Looks placedAhead fun o r => o = r.ahead := by
  refine .bind placed_looks fun _ r hr _ => ?_
  obtain ⟨lexer, current, ahead⟩ := r
  cases ahead with
  | some p => exact ⟨_, _, then_ok rfl rfl, .refl hr, rfl⟩
  | none =>
    obtain ⟨o, l, hnext, hbare, htokens, hnoted, -, hstray⟩ := scan_next hr
    refine ⟨o, _, then_ok rfl (then_ok hnext rfl), ⟨⟨hbare, hr.current, htokens⟩, hnoted, ?_,
      fun _ => id⟩, rfl⟩
    rintro (h | ⟨_, ⟨⟩, -⟩ | h)
    · exact .inl h
    · rcases hstray h with h | h
      · exact .inr (.inl h)
      · exact .inr (.inr h)

theorem peekAhead_looks : Looks peekAhead fun o r => o = r.ahead.map (·.token) :=
  .bind placedAhead_looks fun _ r hr ho => ⟨_, r, rfl, .refl hr, by rw [ho]⟩

theorem isAt_looks (text : String) :
    Looks (isAt text) fun b r => b = isText text (r.current.map (·.token)) :=
  .bind peek_looks fun _ r hr ho => ⟨_, r, rfl, .refl hr, by rw [ho]⟩

theorem isAtAny_looks (texts : List String) :
    Looks (isAtAny texts) fun b r => b = texts.any (isText · (r.current.map (·.token))) :=
  .bind peek_looks fun _ r hr ho => ⟨_, r, rfl, .refl hr, by rw [ho]⟩

theorem isAhead_looks (text : String) :
    Looks (isAhead text) fun b r => b = isText text (r.ahead.map (·.token)) :=
  .bind peekAhead_looks fun _ r hr ho => ⟨_, r, rfl, .refl hr, by rw [ho]⟩

theorem atEnd_looks : Looks atEnd fun _ _ => True := .skip placed_looks fun _ => .pure _

theorem lineBreakAhead_looks : Looks lineBreakAhead fun _ _ => True :=
  .skip placedAhead_looks fun _ => .pure _

theorem lineBreakBefore_looks : Looks lineBreakBefore fun _ _ => True :=
  .skip placed_looks fun _ => .pure _

theorem atStatementEnd_looks : Looks atStatementEnd fun _ _ => True :=
  (isAtAny_looks _).skip fun _ => .ite (.pure true) lineBreakBefore_looks

theorem get_looks : Looks (get : Parse Reader) fun _ _ => True :=
  fun r hr => ⟨r, r, rfl, .refl hr, trivial⟩

theorem context_looks : Looks context fun _ _ => True := .skip get_looks fun _ => .pure _

theorem isName_looks (o : Option Token) : Looks (isName o) fun _ _ => True := by
  unfold isName
  split
  · exact .skip context_looks fun _ => .pure _
  · exact .pure true
  · exact .pure false

theorem start_looks : Looks start fun _ _ => True := by
  refine .skip placed_looks fun o => ?_
  cases o with
  | some p => exact .pure p.lo
  | none => exact .skip get_looks fun _ => .pure _

theorem here_looks : Looks here fun _ _ => True := .skip get_looks fun _ => .pure _

theorem lastStart_looks : Looks lastStart fun _ _ => True := .skip get_looks fun _ => .pure _

theorem lastEnd_looks : Looks lastEnd fun _ _ => True := .skip get_looks fun _ => .pure _

theorem spanFrom_looks (lo : Nat) : Looks (spanFrom lo) fun _ _ => True :=
  .skip lastEnd_looks fun _ => .pure _

theorem shown_looks : Looks shown fun _ _ => True :=
  .skip peek_looks fun _ => .skip get_looks fun _ => .pure _

theorem modify_looks {change : Reader → Reader} (h : ∀ r, (change r).lexer = r.lexer ∧
    (change r).current = r.current ∧ (change r).ahead = r.ahead) :
    Looks (modify change) fun _ _ => True := by
  intro r hr
  obtain ⟨hlexer, hcurrent, hahead⟩ := h r
  refine ⟨(), change r, rfl, ⟨⟨?_, ?_, ?_⟩, ?_, ?_, ?_⟩, trivial⟩
  · exact hlexer ▸ hr.lexer
  · exact hcurrent ▸ hr.current
  · exact hahead ▸ hr.ahead
  · unfold Reader.Noted
    rw [hlexer]
    exact id
  · unfold Reader.HasFlaw
    rw [hlexer, hcurrent, hahead]
    exact id
  · rw [hcurrent]
    exact fun _ => id

theorem setContext_looks (c : Context) : Looks (setContext c) fun _ _ => True := by
  intro r hr
  have hleads : Lexer.Leads r.lexer
      (if c.inModule then
        { r.lexer with
          context := c, faults := r.lexer.faults ++ r.lexer.moduleFaults, moduleFaults := #[] }
      else { r.lexer with context := c }) := by
    split
    · exact ⟨rfl, rfl, List.suffix_refl _, fun h => by simp [h]⟩
    · exact .stay rfl rfl rfl rfl
  refine ⟨(), _, rfl, looked_scan hr hleads ?_, trivial⟩
  split <;> rfl

/-! ## Contexts -/

theorem Carries.within {p : Parse α} {P : α → Prop} {change : Context → Context}
    (hp : Carries k p P fun _ => .none) : Carries k (within change p) P fun _ => .none := by
  refine .look context_looks fun outer => .look (setContext_looks _) fun _ => .attempt hp ?_ ?_
  · exact fun a ha => .look (setContext_looks _) fun _ => .pure ha
  · exact fun d => .skip (setContext_looks _).carries fun _ => .throw d

theorem Carries.allowingIn {p : Parse α} {P : α → Prop} (hp : Carries k p P fun _ => .none) :
    Carries k (allowingIn p) P fun _ => .none := within hp

/-! ## Tokens -/

/-- What a token that has been looked at tells about taking it. -/
def Hint.at : Option Token → Hint
  | some (.flawed _ _) => none
  | some _ => ready
  | Option.none => none

theorem Hint.at_holds {r : Reader} : (Hint.at (r.current.map (·.token))).Holds r := by
  cases hcurrent : r.current with
  | none => trivial
  | some t =>
    obtain ⟨token, lo, hi, afterLineBreak⟩ := t
    cases token with
    | flawed => trivial
    | _ => exact .inr ⟨_, hcurrent, rfl⟩

theorem peek_carries : Carries .none peek (fun o => ∀ t ∈ o, t.IsBare) Hint.at := by
  intro stage r hr _
  obtain ⟨o, r', hok, hlooked, rfl⟩ := peek_looks r hr.bare
  rw [hok]
  refine ⟨hr.looked hlooked, ?_, Hint.at_holds⟩
  intro t ht
  obtain ⟨p, hp, rfl⟩ := Option.map_eq_some_iff.1 ht
  exact hlooked.bare.current p hp

/-- Marks that no bare text has. -/
def absentMarks : List String := Lexer.marks.filter (!Lexer.bareMarks.contains ·)

theorem isText_absent {text : String} (htext : text ∈ absentMarks) {t : Token} (ht : t.IsBare) :
    isText text (some t) = false := by
  obtain ⟨hmark, hnot⟩ := List.mem_filter.1 htext
  cases ht with
  | @word w hw =>
    refine beq_false_of_ne ?_
    rintro rfl
    obtain ⟨c, hc, hstart⟩ := hw.start
    have hall : ∀ m ∈ Lexer.marks, m.toList.head?.all (!Lexer.isNameStart ·) = true := by decide
    have hother := (Option.all_eq_true _ _).1 (hall w hmark) c hc
    rw [hstart] at hother
    cases hother
  | @mark m hm =>
    refine beq_false_of_ne ?_
    rintro rfl
    rw [List.contains_iff_mem.2 hm] at hnot
    cases hnot
  | number | bigint | flawed => rfl

theorem isText_map_absent {text : String} (htext : text ∈ absentMarks) {o : Option PlacedToken}
    (ho : ∀ t ∈ o, t.token.IsBare) : isText text (o.map (·.token)) = false := by
  cases o with
  | none => rfl
  | some t => exact isText_absent htext (ho t rfl)

/-- Marks that no bare text has are not come to. -/
theorem isAtAny_absent {texts : List String} (htexts : ∀ text ∈ texts, text ∈ absentMarks) :
    Carries k (isAtAny texts) (· = false) fun _ => k := by
  refine (isAtAny_looks texts).tells fun b r hr hb => hb.trans ?_
  refine List.any_eq_false.2 fun text htext => ne_true_of_eq_false ?_
  exact isText_map_absent (htexts text htext) hr.current

theorem isAt_absent {text : String} (htext : text ∈ absentMarks) :
    Carries k (isAt text) (· = false) fun _ => k :=
  (isAt_looks text).tells fun _ _ hr hb => hb.trans (isText_map_absent htext hr.current)

theorem isAhead_absent {text : String} (htext : text ∈ absentMarks) :
    Carries k (isAhead text) (· = false) fun _ => k :=
  (isAhead_looks text).tells fun _ _ hr hb => hb.trans (isText_map_absent htext hr.ahead)

theorem eat_absent {text : String} (htext : text ∈ absentMarks) :
    Carries k (eat text) (· = false) fun _ => k :=
  .no (isAt_absent htext) (.answer rfl)

/-- A word or mark that has been looked at can be taken. -/
theorem Hint.holds_of_isText {r : Reader} {text : String} {o : Option Token}
    (htext : isText text o = true) (ho : (Hint.at o).Holds r) : Hint.ready.Holds r := by
  cases o with
  | none => cases htext
  | some t =>
    cases t with
    | word | mark => exact ho
    | _ => cases htext

theorem isAt_carries (text : String) :
    Carries .none (isAt text) (fun _ => True) fun b => bif b then .ready else .none := by
  refine peek_carries.bind fun o _ => ?_
  intro stage r hr hk
  refine ⟨hr, trivial, ?_⟩
  cases htext : isText text o with
  | false => trivial
  | true => exact Hint.holds_of_isText htext hk

theorem isAtAny_carries (texts : List String) :
    Carries .none (isAtAny texts) (fun _ => True) fun b => bif b then .ready else .none := by
  refine peek_carries.bind fun o _ => ?_
  intro stage r hr hk
  refine ⟨hr, trivial, ?_⟩
  cases hany : texts.any (isText · o) with
  | false => trivial
  | true =>
    obtain ⟨text, -, htext⟩ := List.any_eq_true.1 hany
    exact Hint.holds_of_isText htext hk

/-- A question about the current token and something else. -/
theorem isAt_both_carries (text : String) {q : Parse Bool} {Q : Bool → Reader → Prop}
    (hq : Looks q Q) :
    Carries .none (both (isAt text) q) (fun _ => True) fun b => bif b then .ready else .none := by
  refine (isAt_carries text).bind fun b _ => ?_
  cases b with
  | false => exact fun _ _ hr _ => ⟨hr, trivial, trivial⟩
  | true =>
    refine (hq.carries (k := .ready)).mono (fun _ h => h) fun b r _ hr => ?_
    cases b with
    | false => trivial
    | true => exact hr

/-- Taking a token that is no flaw. -/
theorem bump_ok {r : Reader} (hr : r.Bare) : ∃ r', bump r = .ok () r' ∧ r'.Bare ∧
    (r.Noted → r'.Noted) ∧ (r.Ready → r.HasFlaw → r'.Noted ∨ r'.HasFlaw) := by
  obtain ⟨o, r₁, hok, hlooked, hcurrent, -⟩ := placed_looks r hr
  cases o with
  | none =>
    refine ⟨r₁, then_ok hok rfl, hlooked.bare, hlooked.noted, fun _ h => .inr (hlooked.flaw h)⟩
  | some t =>
    refine ⟨_, then_ok hok rfl, ⟨hlooked.bare.lexer, forall_mem_none, hlooked.bare.ahead⟩,
      hlooked.noted, ?_⟩
    intro hready h
    rcases hlooked.holds (k := .ready) hready with hnoted | ⟨p, hp, hno⟩
    · exact .inl hnoted
    · rcases hlooked.flaw h with ⟨q, hq, hflaw⟩ | h | h
      · cases hp.symm.trans hq
        rw [hno] at hflaw
        cases hflaw
      · exact .inr (.inr (.inl h))
      · exact .inr (.inr (.inr h))

theorem bump_keeps : Keeps .ready bump := by
  intro stage r hr hk
  obtain ⟨r', hok, hbare, hnoted, hflaw⟩ := bump_ok hr.bare
  rw [hok]
  exact ⟨hr.mono hbare hnoted (hflaw hk), trivial, trivial⟩

theorem eat_keeps (text : String) : Keeps .none (eat text) :=
  .ask (isAt_carries text) (bump_keeps.skip fun _ => .pure trivial) (.pure trivial)

theorem eatStatementEnd_keeps : Keeps .none eatStatementEnd :=
  .skip (eat_keeps ";") fun _ => .ite (.pure trivial) (atStatementEnd_looks.carries)

/-! ## Faults -/

theorem add_ok {r : Reader} (hr : r.Bare) (d : Diagnostic) :
    ∃ r', add d r = .ok () r' ∧ r'.Bare ∧ r'.Noted := by
  have hleads : Lexer.Leads r.lexer { r.lexer with faults := r.lexer.faults.push d } :=
    ⟨rfl, rfl, List.suffix_refl _, fun _ => Array.push_ne_empty⟩
  exact ⟨_, rfl, (looked_scan hr hleads rfl).bare, Array.push_ne_empty⟩

theorem noteFlaw_ok {r : Reader} (hr : r.Bare) :
    ∃ r', noteFlaw r = .ok () r' ∧ r'.Bare ∧ (r.Noted → r'.Noted) := by
  obtain ⟨lexer, current⟩ := r
  rcases current with _ | ⟨token, lo⟩
  · exact ⟨_, rfl, hr, id⟩
  · cases token with
    | flawed d =>
      obtain ⟨r₁, hbump, hbare, -⟩ := bump_ok hr
      obtain ⟨r', hadd, hbare', hnoted⟩ := add_ok hbare d
      exact ⟨r', then_ok rfl (then_ok hbump hadd), hbare', fun _ => hnoted⟩
    | _ => exact ⟨_, rfl, hr, id⟩

/-- Noting a fault, and the flaw of a current token that could not be read. -/
theorem note_ok {r : Reader} (hr : r.Bare) (offset : Nat) (fault : Fault) :
    ∃ r', note offset fault r = .ok () r' ∧ r'.Bare ∧ r'.Noted := by
  obtain ⟨o, r₁, hplaced, hlooked, -⟩ := placed_looks r hr
  obtain ⟨r₂, hflaw, hbare, -⟩ := noteFlaw_ok hlooked.bare
  obtain ⟨r', hadd, hbare', hnoted⟩ := add_ok hbare ⟨offset, fault⟩
  exact ⟨r', then_ok hplaced (then_ok hflaw hadd), hbare', hnoted⟩

theorem note_carries (offset : Nat) (fault : Fault) :
    Carries k (note offset fault) (fun _ => True) fun _ => .noted := by
  intro stage r hr _
  obtain ⟨r', hok, hbare, hnoted⟩ := note_ok hr.bare offset fault
  rw [hok]
  exact ⟨stage.holds_of_noted hbare hnoted, trivial, hnoted⟩

theorem note_keeps (offset : Nat) (fault : Fault) : Keeps k (note offset fault) :=
  (note_carries offset fault).mono (fun _ h => h) fun _ _ _ _ => trivial

theorem noteInModule_looks (offset : Nat) (fault : Fault) :
    Looks (noteInModule offset fault) fun _ _ => True := by
  intro r hr
  obtain ⟨l, hok, hleads, hrest⟩ : ∃ l, Scan.noteInModule offset fault r.lexer = .ok () l ∧
      r.lexer.Leads l ∧ l.rest = r.lexer.rest := by
    have hget := Scan.get_ok r.lexer
    by_cases h : r.lexer.context.inModule = true
    · refine ⟨_, Scan.then_ok hget (Scan.if_ok h rfl), ?_, rfl⟩
      exact ⟨rfl, rfl, List.suffix_refl _, fun _ => Array.push_ne_empty⟩
    · exact ⟨_, Scan.then_ok hget (Scan.else_ok h rfl), .stay rfl rfl rfl rfl, rfl⟩
  refine ⟨(), _, ?_, looked_scan hr hleads hrest, trivial⟩
  unfold noteInModule scan
  rw [hok]

/-- Giving up. -/
theorem refuse_stops (offset : Nat) (fault : Fault) : Stops k (refuse offset fault : Parse α) := by
  intro stage r hr _
  obtain ⟨o, r₁, hplaced, hlooked, -⟩ := placed_looks r hr.bare
  obtain ⟨r', hflaw, hbare, hnoted⟩ := noteFlaw_ok hlooked.bare
  have herror : (refuse offset fault : Parse α) r = .error ⟨offset, fault⟩ r' :=
    then_ok hplaced (then_ok hflaw rfl)
  rw [herror]
  exact hr.fallback hbare fun h => hnoted (hlooked.noted h)

theorem unexpected_stops (wanted : String) : Stops k (unexpected wanted : Parse α) :=
  .look shown_looks fun _ => .look here_looks fun _ => refuse_stops _ _

theorem expect_absent {text : String} (htext : text ∈ absentMarks) : Stops k (expect text) := by
  refine (eat_absent htext).bind ?_
  rintro _ rfl
  exact .look shown_looks fun _ => .look here_looks fun _ => refuse_stops _ _

theorem expect_keeps (text : String) : Keeps .none (expect text) := by
  refine (eat_keeps text).skip fun _ => .ite (.stops ?_) (.pure trivial)
  exact .look shown_looks fun _ => .look here_looks fun _ => refuse_stops _ _

theorem expectStatementEnd_keeps : Keeps .none expectStatementEnd := by
  refine eatStatementEnd_keeps.skip fun _ => .ite (.stops ?_) (.pure trivial)
  exact .look shown_looks fun _ => .look here_looks fun _ => refuse_stops _ _

theorem refuseFlaw_carries : Carries k refuseFlaw (fun _ => True) fun _ => k := by
  refine .look peek_looks fun o => ?_
  split
  next d _ =>
    intro stage r hr _
    obtain ⟨r', hok, hbare, hnoted, -⟩ := bump_ok hr.bare
    have herror : (bump >>= fun _ => throw d : Parse Unit) r = .error d r' := then_ok hok rfl
    rw [herror]
    exact hr.fallback hbare hnoted
  next => exact .answer trivial

theorem need_carries : Carries .none need Token.IsBare fun t => Hint.at (some t) := by
  refine refuseFlaw_carries.after fun _ => peek_carries.bind fun o ho => ?_
  cases o with
  | none => exact .look get_looks fun _ => .throw _
  | some t => exact fun _ _ hr hk => ⟨hr, ho t rfl, hk⟩

theorem need_keeps : Keeps .none need :=
  need_carries.mono (fun _ _ => trivial) fun _ _ _ _ => trivial

end Parse

end LoopGuard
