import LoopGuard.Loop.Snippet
import LoopGuard.Proofs.Syntax.Parser.Flaws

/-!
# Statements of bare texts

A bare text can hold a character that no token may have (a flaw) and still start like a statement.

Results:
* statements, declarations and module items keep what is known about a flaw ahead
  (`keepsFlaws_level`, `keepsFlaws_ofDepth`);
* a text with a flaw is not read as one statement: the parser fails, notes a fault or finds another
  number of items (`program_refuses`, `Stmt.ofText?_eq_none`).
-/

namespace LoopGuard

namespace Parse

variable {g : Grammar} {k : Hint}

/-! ## Declarations -/

theorem block_stops (directives : Bool) : Stops k (block g directives) :=
  .look start_looks fun _ => .ends (expect_absent (by decide))

theorem declarator_keeps (hg : g.KeepsFlaws) (inHead : Bool) (kind : VariableKind) :
    Keeps .none (declarator g inHead kind) := by
  refine .look start_looks fun lo => (hg.binding _).skip fun pattern => ?_
  refine .look (.both (.pure _) (isAtAny_looks _)) fun _ => .ite (.pure trivial) ?_
  refine .no (eat_absent (by decide)) (.look context_looks fun ctx => ?_)
  refine .ite ((note_keeps _ _).skip fun _ => .pure trivial) ?_
  exact .when (.stops (refuse_stops _ _)) (.pure trivial)

theorem recoverDeclaration_keeps (hg : g.KeepsFlaws) : Keeps .none (recoverDeclaration g) := by
  refine .look here_looks fun _ => (note_carries _ _).after fun _ => ?_
  refine (Carries.ignored (.map hg.expression)).after fun _ => ?_
  refine (Carries.loop fun _ => ?_).mono (fun _ h => h) fun _ _ _ _ => trivial
  refine eatStatementEnd_keeps.unasked.noted.after fun _ => .ite ?_ ?_
  · exact (Carries.pure trivial).noted
  · refine bump_keeps.unready.noted.after fun _ => .look peek_looks fun t => ?_
    split <;> exact (Carries.pure trivial).noted

/-- A declared pattern of several, where it is not the end of the declaration. -/
theorem declaredPart_keeps {declare : Parse α} (hdeclare : Keeps .none declare) (isFirst : Bool)
    (comma : Nat → Nat) (done : Step σ) (again : α → Step σ) :
    Keeps .none (do
      if ← both (return !isFirst) (return !(← eat ",")) then return done
      if (← isAt ";") || (← atEnd) then
        let start ← lastStart
        note (comma start) .trailingComma
        return done
      return again (← declare)) := by
  refine .skip (.both (.pure trivial) ((eat_keeps _).skip fun _ => .pure trivial)) fun _ => ?_
  refine .ite (.pure trivial) (.look (isAt_looks _) fun _ => .look atEnd_looks fun _ => ?_)
  refine .ite (.look lastStart_looks fun _ => (note_keeps _ _).skip fun _ => .pure trivial) ?_
  exact hdeclare.skip fun _ => .pure trivial

theorem variableDeclaration_keeps (hg : g.KeepsFlaws) (inHead : Bool) :
    Keeps .ready (variableDeclaration g inHead) := by
  refine .look start_looks fun lo => .look peek_looks fun t => bump_keeps.skip fun _ => ?_
  refine .look lastEnd_looks fun wordEnd => ?_
  extract_lets declare
  have hdeclare : Keeps .none declare :=
    .ite (.allowingIn (declarator_keeps hg _ _)) (declarator_keeps hg _ _)
  refine .skip (.loop fun ⟨decls, isFirst⟩ => declaredPart_keeps hdeclare isFirst _ _ _) ?_
  rintro ⟨decls, isFirst⟩
  have hlast (f : Span → Node) := node_keeps (k := .none) lo f
  refine .ite (eatStatementEnd_keeps.skip fun _ => .ite ?_ (hlast _)) (hlast _)
  exact (recoverDeclaration_keeps hg).skip fun _ => hlast _

theorem usingDeclaration_keeps (hg : g.KeepsFlaws) (lo : Nat) :
    Keeps .ready (usingDeclaration g lo) := by
  have hdeclarator := declarator_keeps hg false .var
  refine bump_keeps.skip fun _ => .skip (.loop fun isFirst => ?_) fun _ => ?_
  · exact declaredPart_keeps hdeclarator isFirst _ _ _
  · exact (note_keeps _ _).skip fun _ => node_keeps lo _

/-! ## Statements that are not come to -/

theorem loopBody_keeps (hg : g.KeepsFlaws) : Keeps .none (loopBody g) := .within (hg.statement _ _)

theorem parenthesizedTest_stops : Stops k (parenthesizedTest g) := .ends (expect_absent (by decide))

theorem whileLoop_stops : Stops .ready (whileLoop g) :=
  .look start_looks fun _ => bump_keeps.skip fun _ => .ends parenthesizedTest_stops

theorem doLoop_stops (hg : g.KeepsFlaws) : Stops .ready (doLoop g) :=
  .look start_looks fun _ => bump_keeps.skip fun _ => (loopBody_keeps hg).skip fun _ =>
    (expect_keeps _).skip fun _ => .ends parenthesizedTest_stops

theorem forLoop_stops : Stops .ready (forLoop g) := by
  refine .look start_looks fun lo => bump_keeps.skip fun _ => (eat_keeps _).skip fun _ => ?_
  extract_lets rest
  have hrest (awaitAt : Option Nat) : Stops .none (rest awaitAt) :=
    .ends (expect_absent (by decide))
  exact .ite (.skip (.some lastStart_looks.carries) hrest) (.skip (.pure trivial) hrest)

theorem branch_stops : Stops .ready (branch g) :=
  .look start_looks fun _ => bump_keeps.skip fun _ => .ends parenthesizedTest_stops

theorem switch_stops : Stops .ready (switch g) :=
  .look start_looks fun _ => bump_keeps.skip fun _ => .ends parenthesizedTest_stops

theorem withStatement_stops : Stops .ready (withStatement g) :=
  .look start_looks fun _ => .look (noteInModule_looks _ _) fun _ => bump_keeps.skip fun _ =>
    .ends parenthesizedTest_stops

theorem tryStatement_stops (hg : g.KeepsFlaws) : Stops .ready (tryStatement g) :=
  .look start_looks fun _ => bump_keeps.skip fun _ => .ends (hg.block _)

/-! ## Jumps -/

theorem jump_keeps (kind : JumpKind) : Keeps .ready (jump kind) := by
  refine .look start_looks fun lo => bump_keeps.skip fun _ => eatStatementEnd_keeps.skip fun _ => ?_
  extract_lets rest
  have hrest (target : Option Label) : Keeps .none (rest target) := by
    refine .look (spanFrom_looks lo) fun span => .look context_looks fun ctx => ?_
    have hnote (fault : Fault) : Keeps .none (do
        note lo fault
        return Stmt.jump span kind target) := (note_keeps _ _).skip fun _ => .pure trivial
    refine .look get_looks fun r => ?_
    cases kind with
    | «break» => exact .ite (hnote _) (.ite (hnote _) (.pure trivial))
    | «continue» => exact .ite (hnote _) (.ite (hnote _) (.pure trivial))
  refine .ite (.skip (.pure trivial) hrest) (reference_keeps.skip fun label => ?_)
  exact expectStatementEnd_keeps.skip fun _ => .skip (.pure trivial) hrest

theorem returnStatement_keeps (hg : g.KeepsFlaws) : Keeps .ready (returnStatement g) := by
  have hvalue : Keeps .none (do
      let value ← if ← atStatementEnd then pure none else some <$> allowingIn g.expression
      expectStatementEnd
      return value) := by
    have hend (value : Option Node) : Keeps .none (do expectStatementEnd; return value) :=
      expectStatementEnd_keeps.skip fun _ => .pure trivial
    refine .look atStatementEnd_looks fun _ => .ite (.skip (.pure trivial) hend) ?_
    exact .skip hg.expression.allowingIn.some hend
  refine .look start_looks fun lo => bump_keeps.skip fun _ => .attempt hvalue (fun value _ => ?_) ?_
  · exact .look context_looks fun _ => .when (note_keeps _ _) (node_keeps lo _)
  · refine fun d => .skip context_looks.carries fun _ => .ite ?_ (.throw d)
    exact .skip (note_keeps _ _) fun _ => .throw d

theorem throwStatement_keeps (hg : g.KeepsFlaws) : Keeps .ready (throwStatement g) := by
  refine .look start_looks fun lo => bump_keeps.skip fun _ =>
    .look lineBreakBefore_looks fun _ => ?_
  refine refusing ((hg.expression.allowingIn).skip fun _ => ?_)
  exact expectStatementEnd_keeps.skip fun _ => node_keeps lo _

/-! ## Clauses without their statement -/

theorem handler?_keeps (hg : g.KeepsFlaws) : Keeps .none (handler? g) := by
  refine .look start_looks fun lo => (eat_keeps _).skip fun _ => .ite ?_ (.pure trivial)
  exact .no (eat_absent (by decide)) (.skip (.pure trivial) fun _ => .ends (hg.block _))

theorem finalizer?_keeps (hg : g.KeepsFlaws) : Keeps .none (finalizer? g) :=
  (eat_keeps _).skip fun _ => .ite (.some (.stops (hg.block _))) (.pure trivial)

theorem strayClause_keeps (hg : g.KeepsFlaws) : Keeps .none (strayClause g) := by
  refine .look start_looks fun lo => (note_carries _ _).after fun _ => ?_
  refine (Carries.ignored (.map (handler?_keeps hg))).after fun _ => ?_
  exact (Carries.ignored (.map (finalizer?_keeps hg))).after fun _ => node_keeps lo _

theorem expressionStatement_keeps (hg : g.KeepsFlaws) (lo : Nat) :
    Keeps .none (expressionStatement g lo) := by
  refine hg.expression.allowingIn.skip fun n => ?_
  extract_lets rest
  have hrest : Keeps .none (rest ()) := by
    refine eatStatementEnd_keeps.skip fun _ => .ite (node_keeps lo _) (need_keeps.skip fun t => ?_)
    refine .ite ?_ (.look here_looks fun _ => .stops (refuse_stops _ _))
    refine .look here_looks fun _ => (note_keeps _ _).skip fun _ => ?_
    exact (hg.operators _ _).skip fun _ => node_keeps lo _
  split
  · exact .no (eat_absent (by decide)) (.when (noteInModule_looks _ _).carries hrest)
  · exact hrest

/-- Whether a declaration that opens with `using` starts here, whose word can then be taken. -/
theorem atUsing_carries :
    Carries .none atUsing (fun _ => True) fun b => bif b then .ready else .none :=
  isAt_both_carries _ (.both (lineBreakAhead_looks.skip fun _ => .pure _)
    (peekAhead_looks.skip fun _ => isName_looks _))

theorem awaitStatement_keeps (hg : g.KeepsFlaws) (lo : Nat) :
    Keeps .none (awaitStatement g lo) := by
  refine .ask atUsing_carries (usingDeclaration_keeps hg lo) ?_
  refine (awaitTail_keeps hg lo).skip fun n => (hg.operators _ _).allowingIn.skip fun _ => ?_
  exact eatStatementEnd_keeps.skip fun _ => node_keeps lo _

/-- Whether an asynchronous function starts here, whose first word can then be taken. -/
theorem isAsyncFunction_carries :
    Carries .none (both (isAt "async") (both (isAhead "function") (return !(← lineBreakAhead))))
      (fun _ => True) fun b => bif b then .ready else .none :=
  isAt_both_carries _ (.both (isAhead_looks _) (lineBreakAhead_looks.skip fun _ => .pure _))

theorem otherStatement_keeps (hg : g.KeepsFlaws) (lo : Nat) (declarations : Bool) :
    Keeps .none (otherStatement g lo declarations) := by
  refine (eat_keeps _).skip fun _ => .ite (node_keeps lo _) (.ask isAsyncFunction_carries ?_ ?_)
  · exact bump_keeps.skip fun _ => .ends (function_stops _ _ _ _)
  · refine .no (isAt_absent (by decide)) ?_
    cases declarations with
    | false => exact .no (.both_fails (.answer rfl)) (expressionStatement_keeps hg lo)
    | true =>
      exact .ask atUsing_carries (usingDeclaration_keeps hg lo) (expressionStatement_keeps hg lo)

theorem nestedImport_keeps (hg : g.KeepsFlaws) (lo : Nat) : Keeps .none (nestedImport g lo) := by
  have hahead : Looks (do return isText "(" (← peekAhead) || isText "." (← peekAhead))
      fun _ _ => True := peekAhead_looks.skip fun _ => peekAhead_looks.skip fun _ => .pure _
  refine .look (.both (isAt_looks _) hahead) fun _ => .ite ?_ ?_
  · exact hg.expression.skip fun n => eatStatementEnd_keeps.skip fun _ => node_keeps lo _
  · exact .look here_looks fun _ => .stops (refuse_stops _ _)

theorem declaration_stops (allowed : Bool) {p : Parse Node} (hp : Stops .none p) :
    Stops k (declaration allowed p) :=
  .ite (.look here_looks fun _ => (note_keeps _ _).skip fun _ => .ends hp) (.unasked (.ends hp))

theorem statement_keeps (hg : g.KeepsFlaws) (declarations top : Bool) :
    Keeps .none (statement g declarations top) := by
  refine .look start_looks fun lo => .look (isAtAny_looks _) fun _ =>
    .ite (nestedImport_keeps hg lo) ?_
  have hother := otherStatement_keeps hg lo declarations
  have husing : Looks (both (return top || declarations)
      (if top then return true else isAhead "using")) fun _ _ => True :=
    .both (.pure _) (.ite (.pure _) (isAhead_looks _).weaken)
  refine .ask (isAt_both_carries _ husing) ?_ (need_carries.bind fun t ht => ?_)
  · extract_lets rest
    have hrest : Keeps .ready (rest ()) := bump_keeps.skip fun _ => awaitStatement_keeps hg lo
    exact .ite (.look (modify_looks fun _ => ⟨rfl, rfl, rfl⟩) fun _ => hrest) hrest
  split
  · exact jump_keeps _
  · exact jump_keeps _
  · exact bump_keeps.skip fun _ => expectStatementEnd_keeps.skip fun _ => node_keeps lo _
  · exact .stops (doLoop_stops hg)
  · exact .stops forLoop_stops
  · exact .stops (declaration_stops _ (function_stops _ _ _ _))
  · exact .stops (declaration_stops _ (class_stops hg _ _))
  · exact .stops branch_stops
  · exact returnStatement_keeps hg
  · exact .stops switch_stops
  · exact throwStatement_keeps hg
  · exact .unasked (strayClause_keeps hg)
  · exact .unasked (strayClause_keeps hg)
  · exact .stops (tryStatement_stops hg)
  · exact .stops withStatement_stops
  · exact .stops whileLoop_stops
  · exact (variableDeclaration_keeps hg false).skip fun _ => .pure trivial
  · exact .ite ((variableDeclaration_keeps hg false).skip fun _ => .pure trivial) (.unasked hother)
  · refine .look (.both (.pure _) (peekAhead_looks.skip fun _ => .pure _)) fun _ => .ite ?_ ?_
    · exact (variableDeclaration_keeps hg false).skip fun _ => .pure trivial
    · exact .unasked hother
  · exact .unasked hother

/-! ## Imports and exports -/

theorem enterModule_looks : Looks enterModule fun _ _ => True :=
  context_looks.skip fun _ => .ite (context_looks.skip fun _ => setContext_looks _) (.pure ())

/-- No string names a module in a bare text. -/
theorem moduleName_stops : Stops .none moduleName := by
  refine .look start_looks fun _ => need_carries.bind fun t ht => ?_
  cases ht with
  | word | mark | number | bigint => exact .unasked (unexpected_stops _)
  | flawed => exact unexpected_stops _

theorem fromClause_stops : Stops .none fromClause :=
  (expect_keeps _).skip fun _ => .ends moduleName_stops

theorem importedName_keeps : Keeps .none importedName := .within (declaredName_keeps false)

theorem importDefault_keeps : Keeps .none importItem.importDefault := by
  refine .look peek_looks fun _ => .look (isName_looks _) fun _ => .ite (.pure trivial) ?_
  refine importedName_keeps.skip fun word => ?_
  extract_lets rest
  have hrest : ∀ named, Keeps .none (rest named)
    | (phase, binding) =>
      .look (isAt_looks _) fun _ => .when (.stops (expect_absent (by decide))) (.pure trivial)
  split
  · exact .skip (.pure trivial) hrest
  · have hname : Looks (peek >>= isName) fun _ _ => True := peek_looks.skip isName_looks
    have hfrom : Looks (do if ← isAt "from" then isAhead "from" else return true)
        fun _ _ => True := (isAt_looks _).skip fun _ => .ite (isAhead_looks _).weaken (.pure _)
    refine .look (isAtAny_looks _) fun _ => .ite (.pure trivial) (.look (.both hname hfrom) fun _ =>
      .ite ?_ ?_)
    · exact importedName_keeps.skip fun _ => .skip (.pure trivial) hrest
    · exact .skip (.pure trivial) hrest

theorem importList_keeps : Keeps .none importItem.importList := by
  refine .look start_looks fun lo => .no (eat_absent (by decide)) ?_
  exact .no (eat_absent (by decide)) (.pure trivial)

theorem importItem_keeps (hg : g.KeepsFlaws) : Keeps .ready (importItem g) := by
  refine .look start_looks fun lo => .look peekAhead_looks fun next => .ite ?_ ?_
  · refine .unasked (hg.expression.skip fun n => eatStatementEnd_keeps.skip fun _ => ?_)
    exact node_keeps lo _
  · refine .look enterModule_looks fun _ => bump_keeps.skip fun _ =>
      refuseFlaw_carries.after fun _ => ?_
    refine peek_carries.bind fun o ho => ?_
    split
    · cases ho _ rfl
    · refine .unasked (importDefault_keeps.skip fun ⟨phase, first⟩ => ?_)
      exact importList_keeps.skip fun rest => .ends fromClause_stops

theorem atAsyncFunction_looks : Looks atAsyncFunction fun _ _ => True :=
  .both (isAt_looks _) (.both (isAhead_looks _) (lineBreakAhead_looks.skip fun _ => .pure _))

theorem exportDefault_keeps (hg : g.KeepsFlaws) (lo : Nat) : Keeps .none (exportDefault g lo) := by
  refine .look start_looks fun declStart =>
    .ask (isAt_carries _) ?_ (.ask isAsyncFunction_carries ?_ ?_)
  · exact .ends (.unasked (class_stops hg _ _))
  · exact bump_keeps.skip fun _ => .ends (function_stops _ _ _ _)
  · refine .look (isAt_looks _) fun _ => .ite (.ends (function_stops _ _ _ _)) ?_
    refine hg.assignment.allowingIn.skip fun value => expectStatementEnd_keeps.skip fun _ => ?_
    exact node_keeps lo _

theorem exportItem_keeps (hg : g.KeepsFlaws) : Keeps .ready (exportItem g) := by
  refine .look enterModule_looks fun _ => .look start_looks fun lo => bump_keeps.skip fun _ => ?_
  refine need_keeps.skip fun _ => .no (eat_absent (by decide)) ?_
  refine (eat_keeps _).skip fun _ => .ite (exportDefault_keeps hg lo) ?_
  refine .look start_looks fun declStart => ?_
  extract_lets exports
  have hexports {hint : Hint} {read : Parse Node} (hread : Keeps hint read) :
      Keeps hint (do let decl ← pure (some read); exports decl) :=
    hread.skip fun _ => node_keeps lo _
  have hlist {hint : Hint} : Keeps hint (do let decl ← pure none; exports decl) := by
    refine .bind (Q := (· = none)) (.answer rfl) ?_
    rintro _ rfl
    exact .stops (.ends (expect_absent (by decide)))
  have hclass {hint : Hint} : Keeps hint
      (do let decl ← pure (some («class» g declStart true)); exports decl) :=
    hexports (.unasked (.stops (class_stops hg _ _)))
  have hfunction {hint : Hint} : Keeps hint
      (do let decl ← pure (some (function g declStart false true false)); exports decl) :=
    hexports (.unasked (.stops (function_stops _ _ _ _)))
  -- What has been looked at first can be taken, whichever of the words it is.
  have hready {isClass isAsync isFunction isVariable : Bool} : Keeps .ready
      (if isClass then do let decl ← pure (some («class» g declStart true)); exports decl
      else if isAsync then do
        bump
        let decl ← pure (some (function g declStart true true false))
        exports decl
      else if isFunction then do
        let decl ← pure (some (function g declStart false true false))
        exports decl
      else if isVariable then do let decl ← pure (some (variableDeclaration g false)); exports decl
      else do let decl ← pure none; exports decl) := by
    refine .ite hclass (.ite (bump_keeps.skip fun _ => ?_) (.ite hfunction (.ite ?_ hlist)))
    · exact hexports (.stops (function_stops _ _ _ _))
    · exact hexports (variableDeclaration_keeps hg false)
  refine (isAt_both_carries _ (peekAhead_looks.skip fun _ => .pure _)).bind fun isLet _ => ?_
  cases isLet with
  | true =>
    refine .look (isAt_looks _) fun _ => .look atAsyncFunction_looks fun _ => ?_
    exact .look (isAt_looks _) fun _ => .look (isAtAny_looks _) fun _ => hready
  | false =>
    refine .look (isAt_looks _) fun _ => isAsyncFunction_carries.bind fun isAsync _ => ?_
    cases isAsync with
    | true => exact .look (isAt_looks _) fun _ => .look (isAtAny_looks _) fun _ => hready
    | false =>
      refine .look (isAt_looks _) fun _ => (isAtAny_carries _).bind fun isVariable _ => ?_
      cases isVariable with
      | true => exact hready
      | false => exact .ite hclass (.fails (by simp) (.ite hfunction (.fails (by simp) hlist)))

theorem item_keeps (hg : g.KeepsFlaws) : Keeps .none (item g) :=
  .ask (isAt_carries _) (importItem_keeps hg)
    (.ask (isAt_carries _) (exportItem_keeps hg) (.unasked (.map (hg.statement _ _))))

/-! ## The whole grammar -/

theorem keepsFlaws_level {inner : Unit → Grammar} (h : (inner ()).KeepsFlaws) :
    (Grammar.level inner).KeepsFlaws where
  assignment := assignment_keeps h
  expression := expression_keeps h
  unary := unary_keeps h
  leftHandSide := leftHandSide_keeps h
  operators := operators_keeps h
  member := member_keeps h
  accesses := accesses_keeps h
  binding := binding_keeps
  statement := statement_keeps h
  block := block_stops

theorem keepsFlaws_ofDepth (depth : Nat) : (Grammar.ofDepth Grammar.level depth).KeepsFlaws := by
  induction depth with
  | zero =>
    exact ⟨.throw _, .throw _, .throw _, .throw _, fun _ _ => .throw _, fun _ => .throw _,
      fun _ _ _ => .throw _, fun _ => .throw _, fun _ _ => .throw _, fun _ => .throw _⟩
  | succ depth ih => exact keepsFlaws_level ih

/-! ## Whole texts -/

/-- Whether a step in front of a flaw, where it succeeds, has noted a fault or answers something
with a property. -/
def Refuses (p : Parse α) (P : α → Prop) : Prop :=
  ∀ r, Stage.sought.Holds r →
    match p r with
    | .ok a r' => r'.Bare ∧ (r'.Noted ∨ P a)
    | .error _ _ => True

namespace Refuses

variable {p : Parse α} {P Q : α → Prop}

/-- A step that passes over no flaw comes first. -/
theorem bind {f : α → Parse β} {P : β → Prop} {k' : α → Hint} (hp : Carries .none p Q k')
    (hf : ∀ a, Q a → Refuses (f a) P) : Refuses (p >>= f) P := by
  intro r hr
  have hfirst := hp .sought r hr trivial
  rw [bind_apply]
  split at hfirst
  next a r₁ hok =>
    rw [hok]
    exact hf a hfirst.2.1 r₁ hfirst.1
  next d r₁ herror =>
    rw [herror]
    trivial

/-- A step that only looks comes last. -/
theorem last {f : α → Parse β} {Q : β → Prop} (hp : Refuses p P)
    (hf : ∀ a, Looks (f a) fun b _ => P a → Q b) : Refuses (p >>= f) Q := by
  intro r hr
  have hfirst := hp r hr
  rw [bind_apply]
  split at hfirst
  next a r₁ hok =>
    obtain ⟨b, r', hok', hlooked, hb⟩ := hf a r₁ hfirst.1
    rw [hok]
    dsimp only
    rw [hok']
    exact ⟨hlooked.bare, hfirst.2.imp hlooked.noted hb⟩
  next d r₁ herror =>
    rw [herror]
    trivial

end Refuses

/-- What is read over and over in a text: one item, or its end. -/
def nextItem (g : Grammar) : List Item × Bool → Parse (Step (List Item × Bool)) :=
  fun (items, isFirst) => do
    if ← atEnd then return .done (items, isFirst)
    let i ← item g
    if isFirst then
      if let .stmt s := i then
        if isUseStrict s then setContext { ← context with strict := true }
    return .again (i :: items, false)

/-- At the end of the text no flaw lies ahead. -/
theorem atEnd_ok {r : Reader} (hr : r.Bare) : ∃ b r', atEnd r = .ok b r' ∧ Looked r r' ∧
    (b = true → ¬ r'.HasFlaw) := by
  obtain ⟨o, r', hok, hlooked, hcurrent, hends⟩ := placed_looks r hr
  refine ⟨o.isNone, r', then_ok hok rfl, hlooked, fun hnone => ?_⟩
  obtain ⟨hahead, hrest⟩ := hends (Option.isNone_iff_eq_none.1 hnone)
  rintro (⟨t, ht, -⟩ | ⟨t, ht, -⟩ | hstray)
  · rw [← hcurrent, Option.isNone_iff_eq_none.1 hnone] at ht
    cases ht
  · rw [hahead] at ht
    cases ht
  · exact hstray.ne_nil hrest

/-- One item is read, or the text has ended and a fault has been noted. -/
theorem nextItem_ok (hg : g.KeepsFlaws) (state : List Item × Bool) {r : Reader}
    (hr : Stage.sought.Holds r) :
    match nextItem g state r with
    | .ok (.done _) r' => r'.Bare ∧ r'.Noted
    | .ok (.again state') r' => Stage.sought.Holds r' ∧ state'.1.length = state.1.length + 1
    | .error _ _ => True := by
  obtain ⟨items, isFirst⟩ := state
  obtain ⟨b, r₁, hend, hlooked, hflaw⟩ := atEnd_ok hr.1
  have hr₁ : Stage.sought.Holds r₁ := hr.looked hlooked
  cases b with
  | true =>
    have hdone : nextItem g (items, isFirst) r = .ok (.done (items, isFirst)) r₁ := then_ok hend rfl
    rw [hdone]
    exact ⟨hr₁.1, hr₁.2.resolve_right (hflaw rfl)⟩
  | false =>
    let more : Parse (Step (List Item × Bool)) := do
      let i ← item g
      if isFirst then
        if let .stmt s := i then
          if isUseStrict s then setContext { ← context with strict := true }
      return .again (i :: items, false)
    have hmore : Carries .none more
        (fun next => ∃ state', next = .again state' ∧ state'.1.length = items.length + 1)
        fun _ => .none := by
      refine (item_keeps hg).skip fun i => ?_
      extract_lets last
      have hlast : Carries .none (last ())
          (fun next => ∃ state', next = .again state' ∧ state'.1.length = items.length + 1)
          fun _ => .none := .pure ⟨_, rfl, rfl⟩
      refine .ite ?_ hlast
      split
      · exact .ite (.look context_looks fun _ => .look (setContext_looks _) fun _ => hlast) hlast
      · exact hlast
    have hnext : nextItem g (items, isFirst) r = more r₁ := then_ok hend rfl
    have hstep := hmore .sought r₁ hr₁ trivial
    rw [hnext]
    split at hstep
    next hok =>
      obtain ⟨hr', ⟨state', rfl, hlength⟩, -⟩ := hstep
      rw [hok]
      exact ⟨hr', hlength⟩
    next herror =>
      rw [herror]
      trivial

/-- Reading item after item ends behind a fault, or reads as many items as it is let. -/
theorem repeatFor_nextItem (hg : g.KeepsFlaws) (fuel : Nat) (state : List Item × Bool) :
    Refuses (repeatFor (nextItem g) fuel state) fun state' =>
      state'.1.length = state.1.length + fuel := by
  induction fuel generalizing state with
  | zero => exact fun r hr => ⟨hr.1, .inr rfl⟩
  | succ fuel ih =>
    intro r hr
    have hstep := nextItem_ok hg state hr
    rw [repeatFor, bind_apply]
    split at hstep
    next hok =>
      rw [hok]
      exact ⟨hstep.1, .inl hstep.2⟩
    next state₁ r₁ hok =>
      have hrest := ih state₁ r₁ hstep.1
      rw [hok]
      rw [hstep.2, Nat.add_assoc, Nat.add_comm 1] at hrest
      exact hrest
    next herror =>
      rw [herror]
      trivial

theorem items_eq (g : Grammar) : items g = (do
    let outer ← context
    let (read, _) ← loop ([], true) (nextItem g)
    setContext outer
    return read.reverse) := rfl

theorem loop_nextItem (hg : g.KeepsFlaws) :
    Refuses (loop ([], true) (nextItem g)) fun state => state.1.length ≠ 1 := by
  intro r hr
  have hloop := repeatFor_nextItem hg (r.lexer.source.size - r.lexer.pos + 4) ([], true) r hr
  rw [show loop ([], true) (nextItem g) r = repeatFor (nextItem g) _ _ r from rfl]
  split at hloop
  next =>
    refine ⟨hloop.1, hloop.2.imp_right fun hlength => ?_⟩
    dsimp only at hlength ⊢
    rw [hlength, List.length_nil]
    omega
  next => trivial

theorem items_refuses (hg : g.KeepsFlaws) : Refuses (items g) fun read => read.length ≠ 1 := by
  rw [items_eq]
  refine .bind context_looks.carries fun outer _ =>
    (loop_nextItem hg).last fun ⟨read, isFirst⟩ => ?_
  refine (setContext_looks outer).skip fun _ => fun r hr => ⟨_, r, rfl, .refl hr, fun h => ?_⟩
  rw [List.length_reverse]
  exact h

theorem program_refuses (hg : g.KeepsFlaws) : Refuses (program g) fun p => p.items.length ≠ 1 := by
  refine .bind start_looks.carries fun lo _ => .bind peek_carries fun o ho => ?_
  split
  · cases ho _ rfl
  · refine .bind (.pure (P := fun _ => True) trivial) fun shebang _ => ?_
    refine (items_refuses hg).last fun read => get_looks.skip fun reader => ?_
    have hlast : Looks (do return (⟨← spanFrom lo, shebang, read⟩ : Program)) fun p _ =>
        read.length ≠ 1 → p.items.length ≠ 1 :=
      (spanFrom_looks lo).skip fun _ r hr => ⟨_, r, rfl, .refl hr, id⟩
    exact .ite (enterModule_looks.skip fun _ => hlast) hlast

end Parse

open Parse in
/-- A bare text with a flaw is no statement. -/
theorem Stmt.ofText?_eq_none {text : String} (hbare : ∀ c ∈ text.toList, Lexer.isBare c = true)
    (hstray : Lexer.HasStray text.toList) : Stmt.ofText? text = none := by
  let source := text.toList.toArray
  have hstart : Stage.sought.Holds ({ lexer := { source } } : Reader) :=
    ⟨⟨⟨rfl, rfl, hbare⟩, nofun, nofun⟩, .inr (.inr (.inr hstray))⟩
  let grammar := Grammar.ofDepth Grammar.level (nestingBound source.size)
  have hgrammar : (Grammar.level fun _ => grammar).KeepsFlaws :=
    keepsFlaws_level (keepsFlaws_ofDepth _)
  have hprogram := program_refuses hgrammar _ hstart
  unfold ofText?
  dsimp only
  split
  next => rfl
  next program r hok =>
    rw [hok] at hprogram
    rcases hprogram.2 with hnoted | hlength
    · rw [if_pos (by simpa [Reader.Noted] using .inr hnoted)]
    · split
      · rfl
      · split
        next hitems => exact absurd (congrArg List.length hitems) hlength
        · rfl

end LoopGuard
