import LoopGuard.Proofs.Syntax.Parser.Expression
import LoopGuard.Syntax.Parser.Statement

/-!
# Statements that are read

Every statement is read with its place, also one that stands in a place where it is refused.

Results:
* `Parse.block_written`, `Parse.variableDeclaration_written`: blocks and declarations.
* `Parse.forLoop_written`, `Parse.switch_written`, `Parse.tryStatement_written`: statements around
  other ones.
* `Parse.statement_written`: all statements.
-/

namespace LoopGuard

namespace Parse

variable {g : Grammar}

/-! ## Blocks -/

theorem blockBody_written (hg : g.ReadsWritten) (directives : Bool) :
    Returns (blockBody g directives) Stmt.AreWritten := by
  refine .skip fun outer => .bind (Q := fun read => Stmt.AreWritten read.1) ?_ ?_
  · refine .loop (List.forall_mem_nil _) fun ⟨stmts, directives⟩ hstmts => .skip fun _ => .ite ?_ ?_
    · exact .skip fun _ => .skip fun _ => .pure hstmts
    · refine .skip fun _ => .ite (.pure hstmts) ?_
      refine .bind (hg.statement true false) fun stmt hstmt => ?_
      exact .when₂ (.pure (List.forall_mem_cons.2 ⟨hstmt, hstmts⟩))
  · rintro ⟨stmts, _⟩ hstmts
    exact .skip fun _ => .skip fun _ => .pure fun s hs => hstmts s (List.mem_reverse.1 hs)

theorem block_written (hg : g.ReadsWritten) (directives : Bool) :
    Returns (block g directives) fun b => (Stmt.block b).IsWritten := by
  refine .skip fun lo => .skip fun _ => ?_
  refine .bind (blockBody_written hg directives) fun stmts hstmts => ?_
  refine .bind (spanFrom_returns lo) fun span hspan => .pure ⟨hspan, ?_⟩
  exact (Block.isWritten_mk _ _).2 hstmts

/-! ## Declarations -/

theorem declarator_written (hg : g.ReadsWritten) (inHead : Bool) (kind : VariableKind) :
    Returns (declarator g inHead kind) Node.IsWritten := by
  refine .skip fun lo => .bind (hg.binding _) fun pattern hpattern => .skip fun _ => ?_
  refine .ite (.pure hpattern) (.skip fun _ => .ite ?_ (.skip fun _ => .ite ?_ ?_))
  · exact .bind hg.assignment fun value hvalue => .binary hpattern hvalue
  · exact .skip fun _ => .pure hpattern
  · exact .when (.pure hpattern)

/-- A variable declaration can stand as a statement. -/
theorem variableDeclaration_written (hg : g.ReadsWritten) (inHead : Bool) :
    Returns (variableDeclaration g inHead) fun n => (Stmt.declaration n).IsWritten := by
  refine .skip fun lo => .skip fun token => ?_
  extract_lets kind declare
  have hdeclare : Returns declare Node.IsWritten :=
    .ite (.allowingIn (declarator_written hg _ _)) (declarator_written hg _ _)
  refine .skip fun _ => .skip fun wordEnd => .bind (Q := fun read => Node.AreWritten read.1) ?_ ?_
  · refine .loop (List.forall_mem_nil _) fun ⟨decls, isFirst⟩ hdecls => ?_
    refine .skip fun _ => .ite (.pure hdecls) (.skip fun _ => .skip fun _ => .ite ?_ ?_)
    · exact .skip fun _ => .skip fun _ => .pure hdecls
    · exact .bind hdeclare fun n hn => .pure (List.forall_mem_cons.2 ⟨hn, hdecls⟩)
  · rintro ⟨decls, _⟩ hdecls
    have hgroup (form : GroupForm) : Returns (do return .group (← spanFrom lo) form decls.reverse)
        fun n => (Stmt.declaration n).IsWritten := by
      refine .bind (spanFrom_returns lo) fun span hspan => .pure ⟨hspan, ?_⟩
      exact (Node.isWritten_group _ _ _).2 fun n hn => hdecls n (List.mem_reverse.1 hn)
    exact .ite (.skip fun _ => .when (hgroup _)) (hgroup _)

theorem usingDeclaration_written (lo : Nat) :
    Returns (usingDeclaration g lo) Stmt.IsWritten := by
  refine .skip fun _ => .skip fun _ => .skip fun _ => ?_
  exact .bind (spanFrom_returns lo) fun span hspan => .pure ((Stmt.isWritten_empty _).2 hspan)

/-! ## Loops -/

theorem loopBody_written (hg : g.ReadsWritten) : Returns (loopBody g) Stmt.IsWritten :=
  .within (hg.statement false false)

theorem parenthesizedTest_written (hg : g.ReadsWritten) :
    Returns (parenthesizedTest g) Node.IsWritten :=
  .skip fun _ => .bind (.allowingIn hg.expression) fun _ h => .skip fun _ => .pure h

theorem whileLoop_written (hg : g.ReadsWritten) : Returns (whileLoop g) Stmt.IsWritten := by
  refine .skip fun lo => .skip fun _ => .bind (parenthesizedTest_written hg) fun test htest => ?_
  refine .bind (loopBody_written hg) fun body hbody => ?_
  refine .bind (spanFrom_returns lo) fun span hspan => ?_
  exact .pure ((Stmt.isWritten_loop _ _ _).2 ⟨hspan, htest, hbody⟩)

theorem doLoop_written (hg : g.ReadsWritten) : Returns (doLoop g) Stmt.IsWritten := by
  refine .skip fun lo => .skip fun _ => .bind (loopBody_written hg) fun body hbody => ?_
  refine .skip fun _ => .bind (parenthesizedTest_written hg) fun test htest => .skip fun _ => ?_
  refine .bind (spanFrom_returns lo) fun span hspan => .pure ?_
  exact (Stmt.isWritten_loop _ _ _).2 ⟨hspan, htest, hbody⟩

theorem forEachHead_written (hg : g.ReadsWritten) {left : Node} (hleft : left.IsWritten) :
    Returns (forEachHead g left) LoopHead.IsWritten := by
  refine .skip fun isOf => .skip fun _ => .ite ?_ ?_
  · refine .bind (.allowingIn hg.assignment) fun right hright => .pure ?_
    exact (LoopHead.isWritten_forOf _ _ _).2 ⟨hleft, hright⟩
  · refine .bind (.allowingIn hg.expression) fun right hright => .pure ?_
    exact (LoopHead.isWritten_forIn _ _).2 ⟨hleft, hright⟩

theorem forHead_written (hg : g.ReadsWritten) {init : Option Node}
    (hinit : ∀ n ∈ init, n.IsWritten) : Returns (forHead g init) LoopHead.IsWritten := by
  refine .skip fun _ => ?_
  extract_lets update
  have hupdate (test : Option Node) (htest : ∀ n ∈ test, n.IsWritten) :
      Returns (update test) LoopHead.IsWritten := by
    refine .skip fun _ => ?_
    refine .either .none (Returns.allowingIn hg.expression).some fun update hupdate => ?_
    exact .pure ((LoopHead.isWritten_for _ _ _).2 ⟨hinit, htest, hupdate⟩)
  refine .ite (.bind .none hupdate) (.bind (.allowingIn hg.expression) fun test htest => ?_)
  refine .skip fun _ => .bind (.pure ?_) hupdate
  rintro _ ⟨⟩
  exact htest

theorem forInside_written (hg : g.ReadsWritten) : Returns (forInside g) LoopHead.IsWritten := by
  have hsome {n : Node} (hn : n.IsWritten) : ∀ m ∈ some n, m.IsWritten := by
    rintro _ ⟨⟩
    exact hn
  refine .skip fun _ => .skip fun _ => .ite ?_ (.skip fun _ => .ite ?_ ?_)
  · refine .bind (.within (variableDeclaration_written hg true)) fun decl hdecl => .skip fun _ => ?_
    refine .ite (.skip fun _ => forEachHead_written hg hdecl.2) (.skip fun _ => ?_)
    exact forHead_written hg (hsome hdecl.2)
  · exact forHead_written hg nofun
  · refine .bind (.within hg.expression) fun init hinit => ?_
    refine .skip fun _ => .ite ?_ (.skip fun _ => ?_)
    · refine .bind (toPattern_written .target init hinit) fun pattern hpattern => ?_
      exact forEachHead_written hg hpattern
    · exact forHead_written hg (hsome hinit)

theorem forLoop_written (hg : g.ReadsWritten) : Returns (forLoop g) Stmt.IsWritten := by
  refine .skip fun lo => .skip fun _ => .skip fun _ => .either .any .any fun awaitAt _ => ?_
  refine .skip fun _ => .bind (.within (forInside_written hg)) fun head hhead => .skip fun _ => ?_
  refine .bind (loopBody_written hg) fun body hbody => ?_
  refine .bind (spanFrom_returns lo) fun span hspan => ?_
  have hloop {head : LoopHead} (hhead : head.IsWritten) : (Stmt.loop span head body).IsWritten :=
    (Stmt.isWritten_loop _ _ _).2 ⟨hspan, hhead, hbody⟩
  split
  · refine .pure (hloop ?_)
    rw [LoopHead.isWritten_forOf] at hhead ⊢
    exact hhead
  · exact .refuse _ _
  · exact .pure (hloop hhead)

/-! ## Branches -/

theorem branch_written (hg : g.ReadsWritten) : Returns (branch g) Stmt.IsWritten := by
  refine .skip fun lo => .skip fun _ => .bind (parenthesizedTest_written hg) fun test htest => ?_
  refine .bind (hg.statement false false) fun yes hyes => .skip fun _ => ?_
  refine .either (hg.statement false false).some .none fun no hno => ?_
  refine .bind (spanFrom_returns lo) fun span hspan => .pure ?_
  exact (Stmt.isWritten_branch _ _ _ _).2 ⟨hspan, htest, hyes, hno⟩

theorem caseBody_written (hg : g.ReadsWritten) : Returns (caseBody g) Stmt.AreWritten := by
  refine .bind (Q := Stmt.AreWritten) ?_ ?_
  · refine .loop (List.forall_mem_nil _) fun stmts hstmts => .skip fun _ => .skip fun _ => ?_
    refine .ite (.pure hstmts) (.bind (hg.statement true false) fun s hs => .pure ?_)
    exact List.forall_mem_cons.2 ⟨hs, hstmts⟩
  · exact fun stmts hstmts => .pure fun s hs => hstmts s (List.mem_reverse.1 hs)

theorem switch_written (hg : g.ReadsWritten) : Returns (switch g) Stmt.IsWritten := by
  refine .skip fun lo => .skip fun _ => ?_
  refine .bind (parenthesizedTest_written hg) fun subject hsubject => ?_
  refine .skip fun _ => .bind (Q := fun cases => ∀ c ∈ cases, c.IsWritten) (.within ?_) ?_
  · refine .bind (Q := fun read => ∀ c ∈ read.1, c.IsWritten) (.loop (List.forall_mem_nil _) ?_) ?_
    · rintro ⟨cases, hasDefault⟩ hcases
      refine .skip fun _ => .ite (.pure hcases) (.skip fun caseStart => .skip fun isCase => ?_)
      refine .skip fun _ => ?_
      extract_lets clause
      have hclause (test : Option Node) (htest : ∀ n ∈ test, n.IsWritten) :
          Returns (clause test) (Step.Holds fun read => ∀ c ∈ read.1, c.IsWritten) := by
        refine .skip fun _ => .bind (caseBody_written hg) fun body hbody => .skip fun _ => .pure ?_
        exact List.forall_mem_cons.2 ⟨⟨htest, hbody⟩, hcases⟩
      refine .ite (.bind (Returns.allowingIn hg.expression).some hclause) ?_
      exact .when₂ (hclause none nofun)
    · exact fun ⟨cases, _⟩ hcases => .pure fun c hc => hcases c (List.mem_reverse.1 hc)
  · intro cases hcases
    refine .skip fun _ => .bind (spanFrom_returns lo) fun span hspan => .pure ?_
    exact (Stmt.isWritten_switch _ _ _).2 ⟨hspan, hsubject, hcases⟩

/-! ## Jumps -/

theorem jump_written (kind : JumpKind) : Returns (jump kind) Stmt.IsWritten := by
  refine .skip fun lo => .skip fun _ => .skip fun _ => ?_
  extract_lets behind
  have hbehind (target : Option Label) : Returns (behind target) Stmt.IsWritten := by
    refine .bind (spanFrom_returns lo) fun span hspan => .skip fun ctx => .skip fun r => ?_
    have hjump : (Stmt.jump span kind target).IsWritten := (Stmt.isWritten_jump _ _ _).2 hspan
    cases kind with
    | «break» => exact .ite (.skip fun _ => .pure hjump) (.when (.pure hjump))
    | «continue» => exact .ite (.skip fun _ => .pure hjump) (.when (.pure hjump))
  refine .ite (.skip fun _ => hbehind _) ?_
  exact .skip fun _ => .skip fun _ => .skip fun _ => hbehind _

theorem returnStatement_written (hg : g.ReadsWritten) :
    Returns (returnStatement g) Stmt.IsWritten := by
  have hvalue : Returns (do
      let value ← if ← atStatementEnd then pure none else some <$> allowingIn g.expression
      expectStatementEnd
      return value) fun value => ∀ n ∈ value, n.IsWritten := by
    refine .skip fun _ => .either .none (Returns.allowingIn hg.expression).some ?_
    exact fun value h => .skip fun _ => .pure h
  refine .skip fun lo => .skip fun _ => .bind hvalue.attempt fun result hresult => ?_
  refine .skip fun _ => .when ?_
  cases result with
  | ok value =>
    refine .bind (spanFrom_returns lo) fun span hspan => .pure ?_
    exact (Stmt.isWritten_return _ _).2 ⟨hspan, hresult value rfl⟩
  | error d => exact .throw d

theorem throwStatement_written (hg : g.ReadsWritten) :
    Returns (throwStatement g) Stmt.IsWritten := by
  refine .skip fun lo => .skip fun _ => .skip fun _ => .when₂ ?_
  refine .bind (.allowingIn hg.expression) fun value hvalue => .skip fun _ => ?_
  exact .bind (spanFrom_returns lo) fun span hspan => .pure ⟨hspan, hvalue⟩

/-! ## Other statements -/

theorem handler?_written (hg : g.ReadsWritten) :
    Returns (handler? g) fun h => ∀ c ∈ h, c.IsWritten := by
  refine .skip fun lo => .skip fun _ => .ite ?_ .none
  refine .skip fun _ => ?_
  extract_lets behind
  have hbehind (param : Option Node) (hparam : ∀ n ∈ param, n.IsWritten) :
      Returns (behind param) fun h => ∀ c ∈ h, c.IsWritten := by
    refine .bind (hg.block false) fun body hbody => .skip fun _ => .pure ?_
    rintro _ ⟨⟩
    exact ⟨hparam, hbody.2⟩
  refine .ite (.bind (hg.binding false) fun param hparam => .skip fun _ => ?_) (.bind .none hbehind)
  refine .bind (.pure ?_) hbehind
  rintro _ ⟨⟩
  exact hparam

theorem finalizer?_written (hg : g.ReadsWritten) :
    Returns (finalizer? g) fun b => ∀ c ∈ b, c.IsWritten :=
  .skip fun _ => .ite (Returns.some ((hg.block false).mono fun _ h => h.2)) .none

theorem tryStatement_written (hg : g.ReadsWritten) : Returns (tryStatement g) Stmt.IsWritten := by
  refine .skip fun lo => .skip fun _ => .bind (hg.block false) fun body hbody => .skip fun _ => ?_
  refine .bind (handler?_written hg) fun handler hhandler => ?_
  refine .bind (finalizer?_written hg) fun finalizer hfinalizer => .when ?_
  refine .bind (spanFrom_returns lo) fun span hspan => .pure ?_
  exact (Stmt.isWritten_try _ _ _ _).2 ⟨hspan, hbody.2, hhandler, hfinalizer⟩

theorem strayClause_written : Returns (strayClause g) Stmt.IsWritten := by
  refine .skip fun lo => .skip fun _ => .skip fun _ => .skip fun _ => ?_
  exact .bind (spanFrom_returns lo) fun span hspan => .pure ((Stmt.isWritten_empty _).2 hspan)

theorem withStatement_written (hg : g.ReadsWritten) : Returns (withStatement g) Stmt.IsWritten := by
  refine .skip fun lo => .skip fun _ => .skip fun _ => ?_
  refine .bind (parenthesizedTest_written hg) fun object hobject => ?_
  refine .bind (.within (hg.statement false false)) fun body hbody => ?_
  refine .bind (spanFrom_returns lo) fun span hspan => .pure ?_
  exact (Stmt.isWritten_withObject _ _ _).2 ⟨hspan, hobject, hbody⟩

theorem labeled_written (hg : g.ReadsWritten) (label : Label) :
    Returns (labeled g label) Stmt.IsWritten := by
  refine .within (.skip fun r => .skip fun _ => .skip fun _ => ?_)
  extract_lets behind
  have hbehind (body : Stmt) (hbody : body.IsWritten) : Returns (behind body) Stmt.IsWritten := by
    refine .when (.skip fun _ => .bind (spanFrom_returns _) fun span hspan => .pure ?_)
    exact (Stmt.isWritten_labeled _ _ _).2 ⟨hspan, hbody⟩
  refine .ite (.skip fun lo => .bind (function_written hg _ _ _ _) fun f hf => ?_) ?_
  · extract_lets declared
    have hdeclared : Returns (declared ()) Stmt.IsWritten := hbehind _ hf
    split
    · exact .skip fun ctx => .ite (.skip fun _ => .when hdeclared) (.when hdeclared)
    · exact hdeclared
  · exact .bind (hg.statement false false) hbehind

theorem declaration_written (allowed : Bool) {p : Parse Node}
    (hp : Returns p fun n => (Stmt.declaration n).IsWritten) :
    Returns (declaration allowed p) Stmt.IsWritten :=
  .when₂ (.bind hp fun _ hn => .pure hn)

theorem expressionStatement_written (hg : g.ReadsWritten) (lo : Nat) :
    Returns (expressionStatement g lo) Stmt.IsWritten := by
  have hstmt {n : Node} (hn : n.IsWritten) :
      Returns (do return .expression (← spanFrom lo) n) Stmt.IsWritten :=
    .bind (spanFrom_returns lo) fun span hspan => .pure ⟨hspan, hn⟩
  refine .bind (.allowingIn hg.expression) fun n hn => ?_
  extract_lets behind
  have hbehind : Returns (behind ()) Stmt.IsWritten := by
    refine .skip fun _ => .ite (hstmt hn) (.skip fun _ => .ite ?_ (.skip fun _ => .refuse _ _))
    exact .skip fun _ => .skip fun _ => .bind (hg.operators n 0 hn) fun n hn => hstmt hn
  split
  · exact .skip fun _ => .ite (labeled_written hg _) (.when hbehind)
  · exact hbehind

theorem awaitStatement_written (hg : g.ReadsWritten) (lo : Nat) :
    Returns (awaitStatement g lo) Stmt.IsWritten := by
  refine .skip fun _ => .ite (usingDeclaration_written lo) ?_
  refine .bind (awaitTail_written hg lo) fun n hn => ?_
  refine .bind (.allowingIn (hg.operators n 0 hn)) fun n hn => .skip fun _ => ?_
  exact .bind (spanFrom_returns lo) fun span hspan => .pure ⟨hspan, hn⟩

theorem otherStatement_written (hg : g.ReadsWritten) (lo : Nat) (declarations : Bool) :
    Returns (otherStatement g lo declarations) Stmt.IsWritten := by
  refine .skip fun _ => .ite ?_ (.skip fun _ => .ite ?_ (.skip fun _ => .ite ?_ ?_))
  · exact .bind (spanFrom_returns lo) fun span hspan => .pure ((Stmt.isWritten_empty _).2 hspan)
  · exact .skip fun _ => .bind (function_written hg _ _ _ _) fun n hn => .pure hn
  · exact .bind (hg.block false) fun b hb => .pure hb
  · exact .skip fun _ => .ite (usingDeclaration_written lo) (expressionStatement_written hg lo)

theorem nestedImport_written (hg : g.ReadsWritten) (lo : Nat) :
    Returns (nestedImport g lo) Stmt.IsWritten := by
  refine .skip fun _ => .ite ?_ (.skip fun _ => .refuse _ _)
  refine .bind hg.expression fun n hn => .skip fun _ => ?_
  exact .bind (spanFrom_returns lo) fun span hspan => .pure ⟨hspan, hn⟩

theorem statement_written (hg : g.ReadsWritten) (declarations top : Bool) :
    Returns (statement g declarations top) Stmt.IsWritten := by
  refine .skip fun lo => .skip fun _ => .ite (nestedImport_written hg lo) ?_
  refine .skip fun _ => .ite ?_ ?_
  · exact .when (.skip fun _ => awaitStatement_written hg lo)
  have hvariables : Returns (do return .declaration (← variableDeclaration g false))
      Stmt.IsWritten := .bind (variableDeclaration_written hg false) fun n hn => .pure hn
  have hother := otherStatement_written hg lo declarations
  refine .skip fun token => ?_
  split
  · exact jump_written .break
  · exact jump_written .continue
  · refine .skip fun _ => .skip fun _ => .bind (spanFrom_returns lo) fun span hspan => .pure ?_
    exact (Stmt.isWritten_debugger _).2 hspan
  · exact doLoop_written hg
  · exact forLoop_written hg
  · exact declaration_written _ (function_written hg _ _ _ _)
  · exact declaration_written _ (class_written hg _ _)
  · exact branch_written hg
  · exact returnStatement_written hg
  · exact switch_written hg
  · exact throwStatement_written hg
  · exact strayClause_written
  · exact strayClause_written
  · exact tryStatement_written hg
  · exact withStatement_written hg
  · exact whileLoop_written hg
  · exact hvariables
  · exact .ite hvariables hother
  · exact .skip fun _ => .ite hvariables hother
  · exact hother

end Parse

end LoopGuard
