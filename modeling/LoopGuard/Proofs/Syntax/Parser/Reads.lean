import LoopGuard.Proofs.Syntax.Lexer.Spelled
import LoopGuard.Syntax.Parser.Basic

/-!
# Steps that read what they should

What a reading step does to a text whose tokens are known: it succeeds, answers something with a
property, and goes on behind the tokens it has taken.

Results:
* `Parse.Reads.bind`, `Parse.Reads.loop`: steps in a row, and repeated ones.
* `Parse.Reads.within`: a step in a changed context.
* `Parse.reads_peek`, `Parse.reads_eat`, `Parse.reads_expect`: the elementary moves.
-/

namespace LoopGuard

/-- Whether no rule of modules, strict code, fields and special functions applies. -/
structure Context.IsSloppy (ctx : Context) : Prop where
  inModule : ctx.inModule = false
  strict : ctx.strict = false
  inGenerator : ctx.inGenerator = false
  inAsync : ctx.inAsync = false
  inField : ctx.inField = false
  inStaticBlock : ctx.inStaticBlock = false

/-- Whether tokens are what stands in front of a reader of a sloppy text. -/
structure Reader.Faces (ctx : Context) (ts : List Token) (r : Reader) : Prop where
  isSloppy : ctx.IsSloppy
  foundModuleItem : r.foundModuleItem = false
  tokens : ∃ behind, ts = r.current.toList.map (·.token) ++
    (r.ahead.toList.map (·.token) ++ behind) ∧
    r.lexer.Faces ctx behind

namespace Parse

/-- Whether a step takes the first of some tokens and leaves the others, and answers something with
a property. -/
def Reads (ctx : Context) (p : Parse α) (P : α → Prop) (ts ts' : List Token) : Prop :=
  ∀ r, Reader.Faces ctx ts r → ∃ a r', p r = .ok a r' ∧ P a ∧ Reader.Faces ctx ts' r'

theorem then_ok {p : Parse α} {f : α → Parse β} {r r' : Reader} {a : α}
    {o : EStateM.Result Diagnostic Reader β} (h : p r = .ok a r') (hf : f a r' = o) :
    (p >>= f) r = o := by
  rw [bind_apply, h]
  exact hf

namespace Reads

variable {ctx : Context} {p q : Parse α} {P Q : α → Prop} {ts ts₁ ts' : List Token}

theorem pure {a : α} (h : P a) : Reads ctx (Pure.pure a) P ts ts := fun r hr => ⟨a, r, rfl, h, hr⟩

theorem pure_any (a : α) : Reads ctx (Pure.pure a) (fun _ => True) ts ts := pure trivial

theorem bind {f : α → Parse β} {P : β → Prop} (hp : Reads ctx p Q ts ts₁)
    (hf : ∀ a, Q a → Reads ctx (f a) P ts₁ ts') : Reads ctx (p >>= f) P ts ts' := by
  intro r hr
  obtain ⟨a, r₁, hok, ha, hr₁⟩ := hp r hr
  obtain ⟨b, r', hok', hb, hr'⟩ := hf a ha r₁ hr₁
  exact ⟨b, r', then_ok hok hok', hb, hr'⟩

/-- A step that is told to lead to some tokens. -/
theorem via (Q : α → Prop) (ts₁ : List Token) {f : α → Parse β} {P : β → Prop}
    (hp : Reads ctx p Q ts ts₁) (hf : ∀ a, Q a → Reads ctx (f a) P ts₁ ts') :
    Reads ctx (p >>= f) P ts ts' :=
  hp.bind hf

/-- A step whose answer is known. -/
theorem known {f : α → Parse β} {P : β → Prop} {a : α} (hp : Reads ctx p (· = a) ts ts₁)
    (hf : Reads ctx (f a) P ts₁ ts') : Reads ctx (p >>= f) P ts ts' :=
  hp.bind fun b hb => by
    rw [hb]
    exact hf

/-- A step whose answer does not matter. -/
theorem skip {f : α → Parse β} {P : β → Prop} (hp : Reads ctx p Q ts ts₁)
    (hf : ∀ a, Reads ctx (f a) P ts₁ ts') : Reads ctx (p >>= f) P ts ts' :=
  hp.bind fun a _ => hf a

theorem mono (hp : Reads ctx p Q ts ts') (h : ∀ a, Q a → P a) : Reads ctx p P ts ts' := by
  intro r hr
  obtain ⟨a, r', hok, ha, hr'⟩ := hp r hr
  exact ⟨a, r', hok, h a ha, hr'⟩

/-- What holds of the known answer of a step. -/
theorem answers {a : α} (hp : Reads ctx p (· = a) ts ts') (h : P a) : Reads ctx p P ts ts' :=
  hp.mono fun b hb => by
    rw [hb]
    exact h

theorem any (hp : Reads ctx p Q ts ts') : Reads ctx p (fun _ => True) ts ts' :=
  hp.mono fun _ _ => trivial

theorem map {f : α → β} {P : β → Prop} (hp : Reads ctx p (fun a => P (f a)) ts ts') :
    Reads ctx (f <$> p) P ts ts' := by
  rw [map_eq_pure_bind]
  exact hp.bind fun _ h => .pure h

theorem holds {c : Prop} [Decidable c] (hc : c) (hp : Reads ctx p P ts ts') :
    Reads ctx (if c then p else q) P ts ts' := by
  rw [if_pos hc]
  exact hp

theorem fails {c : Prop} [Decidable c] (hc : ¬ c) (hq : Reads ctx q P ts ts') :
    Reads ctx (if c then p else q) P ts ts' := by
  rw [if_neg hc]
  exact hq

/-- A question that is answered with yes. -/
theorem yes {p : Parse Bool} {f g : Bool → Parse β} {P : β → Prop}
    (hp : Reads ctx p (· = true) ts ts₁) (hf : Reads ctx (f true) P ts₁ ts') :
    Reads ctx (p >>= fun b => if b then f b else g b) P ts ts' :=
  hp.known (.holds rfl hf)

/-- A question that is answered with no. -/
theorem no {p : Parse Bool} {f g : Bool → Parse β} {P : β → Prop}
    (hp : Reads ctx p (· = false) ts ts₁) (hg : Reads ctx (g false) P ts₁ ts') :
    Reads ctx (p >>= fun b => if b then f b else g b) P ts ts' :=
  hp.known (.fails Bool.false_ne_true hg)

/-- Contexts are sloppy where something is read. -/
theorem sloppy (h : ctx.IsSloppy → Reads ctx p P ts ts') : Reads ctx p P ts ts' :=
  fun r hr => h hr.isSloppy r hr

/-- A choice that makes no difference. -/
theorem either {c : Prop} [Decidable c] (hp : Reads ctx p P ts ts') (hq : Reads ctx q P ts ts') :
    Reads ctx (if c then p else q) P ts ts' := by
  by_cases hc : c
  · exact holds hc hp
  · exact fails hc hq

theorem attempt (hp : Reads ctx p P ts ts') :
    Reads ctx (MonadExcept.tryCatch (Except.ok <$> p) fun d => Pure.pure (Except.error d))
      (fun result => ∃ a, result = Except.ok a ∧ P a) ts ts' := by
  intro r hr
  obtain ⟨a, r', hok, ha, hr'⟩ := hp r hr
  refine ⟨.ok a, r', ?_, ⟨a, rfl, ha⟩, hr'⟩
  rw [tryCatch_apply, map_apply, hok]

theorem both_false {p q : Parse Bool} (hp : Reads ctx p (· = false) ts ts') :
    Reads ctx (both p q) (· = false) ts ts' :=
  hp.known (.pure rfl)

/-- The second step answers no, if it comes to that. -/
theorem both_other {p q : Parse Bool} {P : Bool → Prop} (hp : Reads ctx p P ts ts₁)
    (hq : Reads ctx q (· = false) ts₁ ts₁) : Reads ctx (both p q) (· = false) ts ts₁ :=
  hp.skip fun _ => .either hq (.pure rfl)

theorem both_any {p q : Parse Bool} {P Q : Bool → Prop} (hp : Reads ctx p P ts ts₁)
    (hq : Reads ctx q Q ts₁ ts₁) : Reads ctx (both p q) (fun _ => True) ts ts₁ :=
  hp.skip fun _ => .either hq.any (.pure_any _)

/-! ## Contexts -/

theorem context : Reads ctx context (· = ctx) ts ts := by
  intro r hr
  obtain ⟨behind, -, hlexer⟩ := hr.tokens
  exact ⟨_, r, rfl, hlexer.context, hr⟩

theorem changed {outer inner : Context} (h : inner.IsSloppy) {r : Reader}
    (hr : r.Faces outer ts) : ∃ r', setContext inner r = .ok () r' ∧ r'.Faces inner ts := by
  obtain ⟨behind, hts, hlexer⟩ := hr.tokens
  refine ⟨_, rfl, h, hr.foundModuleItem, behind, hts, ?_⟩
  dsimp only
  rw [h.inModule]
  exact ⟨⟨rfl, hlexer.regexAt, hlexer.faults, hlexer.nests⟩, hlexer.spelled⟩

theorem within {change : Context → Context} (hchange : ctx.IsSloppy → (change ctx).IsSloppy)
    (hp : Reads (change ctx) p P ts ts') : Reads ctx (within change p) P ts ts' := by
  intro r hr
  obtain ⟨r₁, hinner, hr₁⟩ := changed (hchange hr.isSloppy) hr
  obtain ⟨result, r₂, hattempt, ⟨a, rfl, ha⟩, hr₂⟩ := hp.attempt r₁ hr₁
  obtain ⟨r', houter, hr'⟩ := changed hr.isSloppy hr₂
  obtain ⟨behind, -, hlexer⟩ := hr.tokens
  have hcontext : Parse.context r = .ok ctx r := by
    rw [← hlexer.context]
    rfl
  refine ⟨a, r', then_ok hcontext ?_, ha, hr'⟩
  exact then_ok hinner (then_ok hattempt (then_ok houter rfl))

theorem allowingIn (hp : Reads { ctx with allowIn := true } p P ts ts') :
    Reads ctx (allowingIn p) P ts ts' :=
  within (fun h => ⟨h.1, h.2, h.3, h.4, h.5, h.6⟩) hp

/-! ## Repetition -/

theorem again (I : σ → Prop) (ts₁ : List Token) {step : σ → Parse (Step σ)} {P : σ → Prop} {s : σ}
    {fuel : Nat} (hstep : Reads ctx (step s) (fun n => ∃ s₁, n = .again s₁ ∧ I s₁) ts ts₁)
    (hmore : ∀ s₁, I s₁ → Reads ctx (repeatFor step fuel s₁) P ts₁ ts') :
    Reads ctx (repeatFor step (fuel + 1) s) P ts ts' := by
  refine hstep.bind ?_
  rintro _ ⟨s₁, rfl, hs₁⟩
  exact hmore s₁ hs₁

theorem done {step : σ → Parse (Step σ)} {P : σ → Prop} {s : σ} {fuel : Nat}
    (hstep : Reads ctx (step s) (fun n => ∃ s₁, n = .done s₁ ∧ P s₁) ts ts') :
    Reads ctx (repeatFor step (fuel + 1) s) P ts ts' := by
  refine hstep.bind ?_
  rintro _ ⟨s₁, rfl, hs₁⟩
  exact pure hs₁

/-- A repetition can go on as long as there are tokens, and twice more. -/
theorem loop {step : σ → Parse (Step σ)} {P : σ → Prop} {s : σ}
    (h : ∀ fuel, ts.length + 2 ≤ fuel → Reads ctx (repeatFor step fuel s) P ts ts') :
    Reads ctx (loop s step) P ts ts' := by
  intro r hr
  obtain ⟨behind, hts, hlexer⟩ := hr.tokens
  -- Each token that is still to be scanned takes a character; two have been read at most.
  have hlength : ts.length + 2 ≤ r.lexer.source.size - r.lexer.pos + 4 := by
    have hbehind := hlexer.spelled.length_le
    rw [Lexer.length_rest] at hbehind
    have hcurrent : r.current.toList.length ≤ 1 := by cases r.current <;> simp
    have hahead : r.ahead.toList.length ≤ 1 := by cases r.ahead <;> simp
    rw [hts]
    simp only [List.length_append, List.length_map]
    omega
  obtain ⟨a, r', hok, ha, hr'⟩ := h _ hlength r hr
  exact ⟨a, r', then_ok rfl hok, ha, hr'⟩

/-- A repetition that takes one thing after the other, and ends behind the last one. -/
theorem each (tokens : List ε → List Token) (I : List ε → σ → Prop)
    {step : σ → Parse (Step σ)} {P : σ → Prop} (hlength : ∀ es, es.length ≤ (tokens es).length)
    (hagain : ∀ e es s, I (e :: es) s → Reads ctx (step s)
      (fun n => ∃ s₁, n = .again s₁ ∧ I es s₁) (tokens (e :: es)) (tokens es))
    (hdone : ∀ s, I [] s → Reads ctx (step s) (fun n => ∃ s₁, n = .done s₁ ∧ P s₁) (tokens []) ts')
    (es : List ε) (s : σ) (hs : I es s) : Reads ctx (Parse.loop s step) P (tokens es) ts' := by
  refine loop fun fuel hfuel => ?_
  have hes : es.length < fuel := by
    have h := hlength es
    omega
  clear hfuel
  induction es generalizing s fuel with
  | nil =>
    cases fuel with
    | zero => cases hes
    | succ fuel => exact done (hdone s hs)
  | cons e es ih =>
    cases fuel with
    | zero => cases hes
    | succ fuel =>
      refine again (I es) (tokens es) (hagain e es s hs) fun s₁ hs₁ => ?_
      exact ih s₁ hs₁ fuel (Nat.lt_of_succ_lt_succ hes)

end Reads

variable {ctx : Context} {t : Token} {ts : List Token}

/-! ## Tokens -/

theorem scan_next_ok {r : Reader} {behind : List Token} (hr : r.lexer.Faces ctx behind) :
    ∃ o l, scan Lexer.next r = .ok o { r with lexer := l } ∧
      behind = o.toList.map (·.token) ++ behind.tail ∧ o.map (·.token) = behind.head? ∧
      l.Faces ctx behind.tail := by
  unfold scan
  cases behind with
  | nil =>
    obtain ⟨l, hnext, hl⟩ := Lexer.next_end hr
    refine ⟨none, l, ?_, rfl, rfl, hl⟩
    rw [hnext]
  | cons t more =>
    obtain ⟨p, l, hnext, rfl, hl⟩ := Lexer.next_ok hr
    refine ⟨some p, l, ?_, rfl, rfl, hl⟩
    rw [hnext]

/-- The current token has been read behind this. -/
theorem placed_ok {r : Reader} (hr : r.Faces ctx ts) :
    ∃ o r', placed r = .ok o r' ∧ r'.current = o ∧ o.map (·.token) = ts.head? ∧
      r'.Faces ctx ts := by
  obtain ⟨hsloppy, hmodule, behind, rfl, hlexer⟩ := hr
  obtain ⟨lexer, current, ahead⟩ := r
  cases current with
  | some p => exact ⟨_, _, rfl, rfl, rfl, hsloppy, hmodule, behind, rfl, hlexer⟩
  | none =>
    cases ahead with
    | some p => exact ⟨_, _, rfl, rfl, rfl, hsloppy, hmodule, behind, rfl, hlexer⟩
    | none =>
      obtain ⟨o, l, hnext, hbehind, htoken, hl⟩ := scan_next_ok hlexer
      exact ⟨_, _, then_ok rfl (then_ok hnext rfl), rfl, htoken, hsloppy, hmodule, behind.tail,
        hbehind, hl⟩

theorem reads_placed : Reads ctx placed (fun o => o.map (·.token) = ts.head?) ts ts := by
  intro r hr
  obtain ⟨o, r', hok, -, htoken, hr'⟩ := placed_ok hr
  exact ⟨o, r', hok, htoken, hr'⟩

theorem reads_peek : Reads ctx peek (· = ts.head?) ts ts :=
  reads_placed.bind fun _ h => .pure h

theorem reads_placedAhead : Reads ctx placedAhead (fun o => o.map (·.token) = ts[1]?) ts ts := by
  intro r hr
  obtain ⟨o, r₁, hok, rfl, htoken, hsloppy, hmodule, behind, hts, hlexer⟩ := placed_ok hr
  obtain ⟨lexer, current, ahead⟩ := r₁
  cases current with
  | none =>
    -- Nothing is left, and nothing is read ahead.
    rw [Option.map_none] at htoken
    have hnil : ts = [] := List.head?_eq_none_iff.1 htoken.symm
    rw [hnil] at hts ⊢
    cases ahead with
    | some q => cases hts
    | none =>
      obtain ⟨o, l, hnext, hbehind, htoken', hl⟩ := scan_next_ok hlexer
      have hempty : behind = [] := hts.symm
      refine ⟨o, _, then_ok hok (then_ok rfl (then_ok hnext rfl)), ?_, hsloppy, hmodule,
        behind.tail, ?_, hl⟩
      · refine htoken'.trans ?_
        rw [hempty]
        rfl
      · exact hempty.symm.trans hbehind
  | some p =>
    cases ahead with
    | some q =>
      refine ⟨_, _, then_ok hok (then_ok rfl rfl), ?_, hsloppy, hmodule, behind, hts, hlexer⟩
      rw [hts]
      rfl
    | none =>
      obtain ⟨o, l, hnext, hbehind, htoken', hl⟩ := scan_next_ok hlexer
      refine ⟨o, _, then_ok hok (then_ok rfl (then_ok hnext rfl)), ?_, hsloppy, hmodule,
        behind.tail, ?_, hl⟩
      · refine htoken'.trans ?_
        rw [hts, List.head?_eq_getElem?]
        rfl
      · rw [hts]
        exact congrArg (p.token :: ·) hbehind

theorem reads_peekAhead : Reads ctx peekAhead (· = ts[1]?) ts ts :=
  reads_placedAhead.bind fun _ h => .pure h

theorem reads_bump : Reads ctx bump (fun _ => True) (t :: ts) ts := by
  intro r hr
  obtain ⟨o, r₁, hok, hcurrent, htoken, hsloppy, hmodule, behind, hts, hlexer⟩ := placed_ok hr
  cases o with
  | none => cases htoken
  | some p =>
    rw [hcurrent] at hts
    refine ⟨(), _, then_ok hok rfl, trivial, hsloppy, hmodule, behind, ?_, hlexer⟩
    exact (List.cons.inj hts).2

theorem reads_isAt (text : String) : Reads ctx (isAt text) (· = isText text ts.head?) ts ts :=
  reads_peek.known (.pure rfl)

theorem reads_isAt_other {text : String} (h : isText text ts.head? = false) :
    Reads ctx (isAt text) (· = false) ts ts :=
  reads_peek.known (.pure h)

theorem reads_isAtAny (texts : List String) :
    Reads ctx (isAtAny texts) (· = texts.any (isText · ts.head?)) ts ts :=
  reads_peek.known (.pure rfl)

theorem reads_isAhead (text : String) : Reads ctx (isAhead text) (· = isText text ts[1]?) ts ts :=
  reads_peekAhead.known (.pure rfl)

theorem reads_isAhead_other {text : String} (h : isText text ts.head? = false) :
    Reads ctx (isAhead text) (· = false) (t :: ts) (t :: ts) := by
  rw [List.head?_eq_getElem?] at h
  exact (reads_isAhead text).mono fun b hb => hb.trans h

theorem reads_eat {text : String} (h : isText text (some t) = true) :
    Reads ctx (eat text) (· = true) (t :: ts) ts := by
  refine (reads_isAt text).known (.holds h ?_)
  exact reads_bump.skip fun _ => .pure rfl

theorem reads_eat_other {text : String} (h : isText text ts.head? = false) :
    Reads ctx (eat text) (· = false) ts ts :=
  (reads_isAt text).known (.fails (by simp [h]) (.pure rfl))

theorem reads_expect {text : String} (h : isText text (some t) = true) :
    Reads ctx (expect text) (fun _ => True) (t :: ts) ts :=
  (reads_eat h).known (.pure trivial)

theorem reads_atEnd : Reads ctx atEnd (· = ts.isEmpty) ts ts := by
  refine reads_placed.bind fun o ho => .pure ?_
  cases ts <;> cases o <;> first | rfl | cases ho

theorem reads_lineBreakBefore : Reads ctx lineBreakBefore (fun _ => True) ts ts :=
  reads_placed.skip fun _ => .pure trivial

theorem reads_lineBreakAhead : Reads ctx lineBreakAhead (fun _ => True) ts ts :=
  reads_placedAhead.skip fun _ => .pure trivial

theorem reads_eatStatementEnd : Reads ctx eatStatementEnd (· = true) (.mark ";" :: ts) ts :=
  (reads_eat rfl).known (.pure rfl)

theorem reads_refuseFlaw (h : ∀ t ∈ ts.head?, t.isFlawed = false) :
    Reads ctx refuseFlaw (fun _ => True) ts ts := by
  refine reads_peek.known ?_
  split
  · next heq => cases h _ heq
  · exact .pure trivial

theorem reads_need (h : t.isFlawed = false) : Reads ctx need (· = t) (t :: ts) (t :: ts) := by
  refine (reads_refuseFlaw ?_).skip fun _ => reads_peek.known (.pure rfl)
  rintro _ ⟨⟩
  exact h

theorem reads_modify {change : Reader → Reader} (h : ∀ r, (change r).lexer = r.lexer ∧
    (change r).current = r.current ∧ (change r).ahead = r.ahead ∧
    (change r).foundModuleItem = r.foundModuleItem) :
    Reads ctx (modify change) (fun _ => True) ts ts := by
  intro r ⟨hsloppy, hmodule, behind, hts, hlexer⟩
  obtain ⟨hl, hcurrent, hahead, hfound⟩ := h r
  refine ⟨(), change r, rfl, trivial, hsloppy, hfound.trans hmodule, behind, ?_, ?_⟩
  · rw [hcurrent, hahead]
    exact hts
  · rw [hl]
    exact hlexer

/-! ## Places -/

theorem reads_get : Reads ctx (get : Parse Reader) (·.foundModuleItem = false) ts ts :=
  fun r hr => ⟨r, r, rfl, hr.foundModuleItem, hr⟩

theorem reads_setContext : Reads ctx (setContext ctx) (fun _ => True) ts ts := by
  intro r hr
  obtain ⟨r', hok, hr'⟩ := Reads.changed hr.isSloppy hr
  exact ⟨(), r', hok, trivial, hr'⟩

theorem reads_start : Reads ctx start (fun _ => True) ts ts := by
  refine reads_placed.skip fun o => ?_
  cases o with
  | some p => exact .pure trivial
  | none => exact reads_get.skip fun _ => .pure trivial

theorem reads_lastEnd : Reads ctx lastEnd (fun _ => True) ts ts :=
  reads_get.skip fun _ => .pure trivial

theorem reads_spanFrom (lo : Nat) : Reads ctx (spanFrom lo) (fun _ => True) ts ts :=
  reads_lastEnd.skip fun _ => .pure trivial

end Parse

end LoopGuard
