import LoopGuard.Proofs.Syntax.Parser.Operands

/-!
# Statements that are read

Statements that a free word opens are expressions; loops, branches and jumps are opened by words of
their own. A text that is one statement is read as this statement and no more.

Results:
* `Parse.reads_statement_expression`: a statement that is an expression.
* `Parse.reads_whileLoop`, `Parse.reads_branch`, `Parse.reads_jump_break`: the statements with words
  of their own.
* `Parse.reads_program`: a text that is one statement.
-/

namespace LoopGuard

namespace Parse

variable {ctx : Context} {g : Grammar} {t : Token} {ts ts₁ behind : List Token} {w : String}
  {m : Node}

/-! ## Statements -/

variable {declarations top : Bool} {s : Stmt}

/-- A statement that is an expression. -/
theorem reads_expressionStatement (lo : Nat) (hname : ∀ w, m = .madeName w → Word.IsFree w)
    (hexpression : Reads { ctx with allowIn := true } g.expression (fun n => n.unplaced = m) ts
      (.mark ";" :: behind)) :
    Reads ctx (expressionStatement g lo) (fun s => s.unplaced = .expression .synthetic m) ts
      behind := by
  refine Reads.bind (.allowingIn hexpression) fun n hn => ?_
  have hend : Reads ctx (do
      if ← eatStatementEnd then return .expression (← spanFrom lo) n
      if (← need).isBinaryOperator then
        note (← here) .expectedSemicolon
        let n ← g.operators n 0
        return .expression (← spanFrom lo) n
      refuse (← here) .expectedStatementEnd : Parse Stmt)
      (fun s => s.unplaced = .expression .synthetic m) (.mark ";" :: behind) behind := by
    refine reads_eatStatementEnd.yes ((reads_spanFrom lo).skip fun span => .pure ?_)
    rw [Stmt.unplaced, hn]
  extract_lets ends
  split
  · next span text =>
    have hfree : Word.IsFree text := hname text hn.symm
    refine (reads_eat_other rfl).no (.fails ?_ hend)
    have henum : (text == "enum") = false := beq_false_of_ne (hfree.ne rfl)
    have hinterface : (text == "interface") = false := beq_false_of_ne (hfree.ne rfl)
    rw [henum, hinterface]
    exact Bool.false_ne_true
  · exact hend

/-- A statement that a free word opens is an expression. -/
theorem reads_statement_expression (hw : Word.IsFree w) (hts : IsBefore nameEnds ts)
    (hstatement : ∀ lo, Reads ctx (expressionStatement g lo)
      (fun s => s.unplaced = .expression .synthetic m) (.word w :: ts) behind) :
    Reads ctx (statement g declarations top) (fun s => s.unplaced = .expression .synthetic m)
      (.word w :: ts) behind := by
  have hother {k : String} (hk : Alias.reserved.contains k = true) :
      isText k (some (.word w)) = false :=
    beq_false_of_ne (hw.ne hk)
  have hmark {text : String} (htext : text ∈ Lexer.marks) :
      isText text (some (.word w)) = false := by
    refine beq_false_of_ne ?_
    rintro rfl
    exact hw.mark htext
  have hlookahead {text : String} (htext : text ∉ nameEnds) : Reads ctx (isAhead text) (· = false)
      (.word w :: ts) (.word w :: ts) := reads_isAhead_other (hts.isText htext)
  have hasync : Reads ctx
      (both (isAt "async") (both (isAhead "function") (return !(← lineBreakAhead)))) (· = false)
      (.word w :: ts) (.word w :: ts) :=
    .both_other (reads_isAt _) (.both_false (hlookahead (by decide)))
  have husing : Reads ctx atUsing (· = false) (.word w :: ts) (.word w :: ts) := by
    refine .both_other (reads_isAt _)
      (.both_other (reads_lineBreakAhead.skip fun _ => .pure_any _) ?_)
    refine reads_peekAhead.known ?_
    obtain ⟨c, -, hhead⟩ := hts
    rw [List.getElem?_cons_succ, ← List.head?_eq_getElem?, hhead]
    exact .pure rfl
  have hotherStatement (lo : Nat) : Reads ctx (otherStatement g lo declarations)
      (fun s => s.unplaced = .expression .synthetic m) (.word w :: ts) behind := by
    refine (reads_eat_other (hmark (by decide))).no ?_
    refine hasync.no ?_
    refine (reads_isAt_other (hmark (by decide))).no ?_
    refine (Reads.both_other (.pure_any _) husing).no ?_
    exact hstatement lo
  have hmodule : ["import", "export"].any (isText · (some (.word w))) = false := by
    rw [List.any_eq_false]
    intro k hk
    have hreserved : ∀ k ∈ ["import", "export"], Alias.reserved.contains k = true := by decide
    rw [hother (hreserved k hk)]
    exact Bool.false_ne_true
  refine reads_start.skip fun lo => (reads_isAtAny _).known (.fails ?_ ?_)
  · rw [List.head?_cons, hmodule]
    exact Bool.false_ne_true
  refine (Reads.both_false (reads_isAt_other (hother rfl))).no ?_
  refine (reads_need rfl).known ?_
  generalize ho : Token.word w = o
  -- The words that open statements of their own are all reserved.
  split <;> cases ho
  all_goals try exact hw.absurd rfl
  exact hotherStatement lo

theorem reads_jump_break (hbreak : ctx.allowBreak = true) :
    Reads ctx (jump .break) (fun s => s.unplaced = .jump .synthetic .break none)
      (.word "break" :: .mark ";" :: ts) ts := by
  refine reads_start.skip fun lo => reads_bump.skip fun _ => reads_eatStatementEnd.yes ?_
  refine Reads.known (.pure rfl) ((reads_spanFrom lo).skip fun span => Reads.context.known ?_)
  refine reads_get.skip fun r => .fails (by simp) (.fails (by simp [hbreak]) (.pure rfl))

theorem reads_parenthesizedTest (htest : Reads { ctx with allowIn := true } g.expression
      (fun n => n.unplaced = m) ts (.mark ")" :: ts₁)) :
    Reads ctx (parenthesizedTest g) (fun n => n.unplaced = m) (.mark "(" :: ts) ts₁ := by
  refine (reads_expect rfl).skip fun _ => Reads.bind (.allowingIn htest) fun n hn => ?_
  exact (reads_expect rfl).skip fun _ => .pure hn

theorem reads_branch (htest : Reads { ctx with allowIn := true } g.expression
      (fun n => n.unplaced = m) ts (.mark ")" :: ts₁))
    (hyes : Reads ctx (g.statement false false) (fun s' => s'.unplaced = s) ts₁ behind)
    (helse : isText "else" behind.head? = false) :
    Reads ctx (branch g) (fun s' => s'.unplaced = .branch .synthetic m s none)
      (.word "if" :: .mark "(" :: ts) behind := by
  refine reads_start.skip fun lo => reads_bump.skip fun _ => (reads_parenthesizedTest htest).bind ?_
  refine fun n hn => hyes.bind fun yes hyes => (reads_eat_other helse).no ?_
  refine Reads.known (.pure rfl) ((reads_spanFrom lo).skip fun span => .pure ?_)
  rw [Stmt.unplaced, hn, hyes]
  rfl

theorem reads_whileLoop (htest : Reads { ctx with allowIn := true } g.expression
      (fun n => n.unplaced = m) ts (.mark ")" :: ts₁))
    (hbody : Reads { ctx with allowBreak := true, allowContinue := true } (g.statement false false)
      (fun s' => s'.unplaced = s) ts₁ behind) :
    Reads ctx (whileLoop g) (fun s' => s'.unplaced = .loop .synthetic (.while m) s)
      (.word "while" :: .mark "(" :: ts) behind := by
  refine reads_start.skip fun lo => reads_bump.skip fun _ => (reads_parenthesizedTest htest).bind ?_
  have hloop : Reads ctx (loopBody g) (fun s' => s'.unplaced = s) ts₁ behind :=
    .within (fun h => ⟨h.1, h.2, h.3, h.4, h.5, h.6⟩) hbody
  refine fun n hn => hloop.bind fun body hbody => (reads_spanFrom lo).skip fun span => .pure ?_
  rw [Stmt.unplaced, LoopHead.unplaced, hn, hbody]

/-- A statement that a word of its own opens. -/
theorem reads_statement_word {p : Parse Stmt} {P : Stmt → Prop} {k : String}
    (hk : k = "break" ∧ p = jump .break ∨ k = "if" ∧ p = branch g ∨ k = "while" ∧ p = whileLoop g)
    (hp : Reads ctx p P (.word k :: ts) behind) :
    Reads ctx (statement g declarations top) P (.word k :: ts) behind := by
  rcases hk with ⟨rfl, rfl⟩ | ⟨rfl, rfl⟩ | ⟨rfl, rfl⟩
  all_goals
    refine reads_start.skip fun lo => (reads_isAtAny _).known (.fails (by simp [isText]) ?_)
    refine (Reads.both_false (reads_isAt_other rfl)).no ?_
    exact (reads_need rfl).known hp

/-! ## Texts -/

theorem isUseStrict_unplaced (s : Stmt) : isUseStrict s.unplaced = isUseStrict s := by
  cases s with
  | expression span n =>
    cases n with
    | leaf span leaf => cases leaf <;> rfl
    | _ => rfl
  | _ => rfl

theorem reads_item (hfirst : ∀ text ∈ ["import", "export"], isText text ts.head? = false)
    (hstatement : Reads ctx (g.statement true true) (fun s' => s'.unplaced = s) ts behind) :
    Reads ctx (item g) (fun i => ∃ s', i = .stmt s' ∧ s'.unplaced = s) ts behind := by
  refine (reads_isAt_other (hfirst _ (by decide))).no ?_
  refine (reads_isAt_other (hfirst _ (by decide))).no ?_
  exact .map (hstatement.mono fun s' hs' => ⟨s', rfl, hs'⟩)

/-- The items of a text that is one statement. -/
theorem reads_items (hstrict : isUseStrict s = false) (hne : ts ≠ [])
    (hitem : Reads ctx (item g) (fun i => ∃ s', i = .stmt s' ∧ s'.unplaced = s) ts []) :
    Reads ctx (items g) (fun read => ∃ s', read = [.stmt s'] ∧ s'.unplaced = s) ts [] := by
  refine Reads.context.known ?_
  refine .via (fun state => ∃ s', state.1 = [.stmt s'] ∧ s'.unplaced = s) [] ?_ ?_
  · refine .loop fun fuel hfuel => ?_
    obtain ⟨fuel, rfl⟩ := Nat.exists_eq_add_of_le' (Nat.le_trans (Nat.le_add_left 2 _) hfuel)
    refine .again (fun state => ∃ s', state.1 = [.stmt s'] ∧ s'.unplaced = s) [] ?_ ?_
    · refine reads_atEnd.known (.fails (by simpa using hne) (hitem.bind ?_))
      rintro _ ⟨s', rfl, hs'⟩
      have hplain : isUseStrict s' = false := by rw [← isUseStrict_unplaced, hs', hstrict]
      refine .holds rfl (.fails (by simp [hplain]) (.pure ⟨_, rfl, s', rfl, hs'⟩))
    · rintro ⟨read, isFirst⟩ hread
      exact .done (reads_atEnd.yes (.pure ⟨_, rfl, hread⟩))
  · rintro ⟨_, isFirst⟩ ⟨s', rfl, hs'⟩
    exact reads_setContext.skip fun _ => .pure ⟨s', rfl, hs'⟩

/-- A text that is one statement. -/
theorem reads_program (hstrict : isUseStrict s = false)
    (hfirst : ∀ text ∈ ["import", "export"], isText text (some t) = false)
    (hshebang : ∀ text, t ≠ .shebang text)
    (hstatement : Reads ctx (g.statement true true) (fun s' => s'.unplaced = s) (t :: ts) []) :
    Reads ctx (program g) (fun p => ∃ s', p.items = [.stmt s'] ∧ s'.unplaced = s) (t :: ts) [] := by
  have hitem : Reads ctx (item g) (fun i => ∃ s', i = .stmt s' ∧ s'.unplaced = s) (t :: ts) [] :=
    reads_item hfirst hstatement
  refine reads_start.skip fun lo => reads_peek.known ?_
  rw [List.head?_cons]
  generalize ho : some t = o
  split
  · next text => exact absurd (Option.some.inj ho) (hshebang text)
  · refine Reads.known (.pure rfl)
      (Reads.bind (reads_items hstrict (List.cons_ne_nil t ts) hitem) ?_)
    rintro _ ⟨s', rfl, hs'⟩
    refine reads_get.bind fun r hr => .fails (by simp [hr, isModuleItem]) ?_
    exact (reads_spanFrom lo).skip fun span => .pure ⟨s', rfl, hs'⟩

end Parse

end LoopGuard
