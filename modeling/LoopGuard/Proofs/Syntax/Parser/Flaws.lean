import LoopGuard.Proofs.Syntax.Parser.Moves
import LoopGuard.Syntax.Parser.Expression

/-!
# Expressions of bare texts

No construct of an expression passes over a flaw of a bare text. Texts, templates, brackets and the
like are not bare, so the constructs that need one stop there.

Results:
* `Grammar.KeepsFlaws`: what the constructs of a grammar keep, which holds of each depth of nesting;
* operands, operators, assignments and expressions keep what is known about a flaw ahead if the
  constructs nested in them do (`operators_keeps`, `assignment_keeps`, `expression_keeps`).
-/

namespace LoopGuard

open Parse

/-- Whether no construct of a grammar passes over a flaw. Blocks are not come to. -/
structure Grammar.KeepsFlaws (g : Grammar) : Prop where
  assignment : Keeps .none g.assignment
  expression : Keeps .none g.expression
  unary : Keeps .none g.unary
  leftHandSide : Keeps .none g.leftHandSide
  operators : ∀ left least, Keeps .none (g.operators left least)
  member : ∀ mayLackArguments, Keeps .none (g.member mayLackArguments)
  accesses : ∀ lo object noCall, Keeps .none (g.accesses lo object noCall)
  binding : ∀ letIsReserved, Keeps .none (g.binding letIsReserved)
  statement : ∀ declarations top, Keeps .none (g.statement declarations top)
  block : ∀ directives, Stops .none (g.block directives)

namespace Parse

variable {g : Grammar} {k : Hint}

/-- A node that spans what has been taken. -/
theorem node_keeps {α : Type} (lo : Nat) (f : Span → α) : Keeps k (do return f (← spanFrom lo)) :=
  .look (spanFrom_looks lo) fun _ => .pure trivial

/-- What is refused, and what follows otherwise. -/
theorem refusing {c : Prop} [Decidable c] {fault : Fault} {rest : Parse α} (h : Keeps .none rest) :
    Keeps .none
      (if c then here >>= fun offset => (refuse offset fault : Parse Unit) >>= fun _ => rest
      else rest) :=
  .when₂ here_looks.carries (fun _ => .stops (refuse_stops _ _)) h

theorem bareMarks_of_isBare {m : String} (h : (Token.mark m).IsBare) : m ∈ Lexer.bareMarks := by
  cases h with
  | mark hm => exact hm

/-! ## Names -/

theorem name_keeps (yieldIsName awaitIsName : Bool) :
    Keeps .none (name yieldIsName awaitIsName) := by
  refine .look start_looks fun lo => need_carries.bind fun t _ => ?_
  split
  · refine bump_keeps.skip fun _ => ?_
    extract_lets fits last checks
    have hlast : Keeps .none (last ()) := .ite (node_keeps lo _) (.stops (refuse_stops _ _))
    have hchecks : Keeps .none (checks ()) := by
      refine .look context_looks fun ctx => .when (.stops (refuse_stops _ _)) ?_
      exact .when (.stops (refuse_stops _ _)) (.when (note_keeps _ _) hlast)
    refine .ite ((note_keeps _ _).skip fun _ => hchecks) ?_
    exact .when (noteInModule_looks _ _).carries hchecks
  · exact bump_keeps.skip fun _ => node_keeps lo _
  · exact .unasked (.look here_looks fun _ => .stops (refuse_stops _ _))

theorem anyWord_keeps : Keeps .none anyWord := by
  refine .look start_looks fun lo => need_carries.bind fun t _ => ?_
  cases t with
  | word | escapedName => exact bump_keeps.skip fun _ => node_keeps lo _
  | _ => exact .unasked (.look here_looks fun _ => .stops (refuse_stops _ _))

theorem reference_keeps : Keeps .none reference := .look context_looks fun _ => name_keeps _ _

theorem declaredName_keeps (letIsReserved : Bool) : Keeps .none (declaredName letIsReserved) := by
  refine .look (isAt_looks _) fun _ => ?_
  extract_lets behind
  have hbehind : Keeps .none (behind ()) := by
    refine (name_keeps _ _).skip fun label => .when (noteInModule_looks _ _).carries ?_
    refine .look context_looks fun ctx => .when (note_keeps _ _) (.when (note_keeps _ _) ?_)
    exact .pure trivial
  exact .when (.stops (unexpected_stops _)) hbehind

theorem binding_keeps (letIsReserved : Bool) : Keeps .none (binding g letIsReserved) := by
  refine need_carries.bind fun t ht => ?_
  split
  · exact .unasked ((declaredName_keeps _).skip fun _ => .pure trivial)
  · exact .unasked ((declaredName_keeps _).skip fun _ => .pure trivial)
  · exact absurd (bareMarks_of_isBare ht) (by decide)
  · exact absurd (bareMarks_of_isBare ht) (by decide)
  · exact .stops (unexpected_stops _)

/-! ## Functions and classes -/

theorem functionTail_stops (isAsync isGenerator : Bool) (check : List Node → Parse Unit) :
    Stops k (functionTail g isAsync isGenerator check) :=
  .within (.ends (expect_absent (by decide)))

theorem function_stops (lo : Nat) (isAsync needsName isExpression : Bool) :
    Stops .none (function g lo isAsync needsName isExpression) := by
  refine (expect_keeps _).skip fun _ => (eat_absent (by decide)).bind fun isGenerator _ => ?_
  extract_lets named rest
  have hnamed : Keeps .none named := by
    refine .look peek_looks fun _ => .look (isName_looks _) fun _ => .ite ?_ (.pure trivial)
    exact (declaredName_keeps _).skip fun _ => .pure trivial
  have hrest (name : Option Node) : Stops .none (rest name) := .ends (functionTail_stops _ _ _)
  exact .ends (.within (.ite (.skip (.within hnamed) hrest) (hnamed.skip hrest)))

theorem class_stops (hg : g.KeepsFlaws) (lo : Nat) (needsName : Bool) :
    Stops .none («class» g lo needsName) := by
  refine .within ((expect_keeps _).skip fun _ => .look peek_looks fun _ =>
    .look (isName_looks _) ?_)
  intro isName
  extract_lets heritages
  have hheritages (className : Option Label) : Stops .none (heritages className) := by
    refine (eat_keeps _).skip fun _ => ?_
    extract_lets members
    have hmembers (heritage : Option Node) : Stops .none (members heritage) := by
      refine (eat_keeps _).skip fun _ => ?_
      extract_lets body
      have hbody : Stops .none (body ()) := .ends (expect_absent (by decide))
      exact .ite (.look lastStart_looks fun _ => (note_keeps _ _).skip fun _ =>
        hg.leftHandSide.skip fun _ => hbody) hbody
    exact .ite (.skip hg.leftHandSide.some hmembers) (.skip (.pure trivial) hmembers)
  exact .ite (.skip (declaredName_keeps true).some hheritages) (.skip (.pure trivial) hheritages)

/-- A name, where no arrow can follow. -/
theorem nameOrArrow_keeps (lo : Nat) (mayBeArrow : Bool) :
    Keeps .none (nameOrArrow g lo mayBeArrow) := by
  refine reference_keeps.skip fun label => .look lineBreakBefore_looks fun _ => ?_
  refine .look peek_looks fun _ => .look (isName_looks _) fun _ => .ite ?_ ?_
  · have harrow : Looks (do return !(← isAhead "=>")) fun _ _ => True :=
      (isAhead_looks _).skip fun _ => .pure _
    refine .look context_looks fun ctx => .look (.both (.pure _) (.both (isAt_looks _) harrow)) ?_
    refine fun _ => .ite (.when₂ lastStart_looks.carries (fun _ => note_keeps _ _) ?_) ?_
    · exact .pure trivial
    · exact (declaredName_keeps _).skip fun _ => .ends (expect_absent (by decide))
  · refine .no (.both_no ?_ (eat_absent (by decide))) (.pure trivial)
    exact (lineBreakBefore_looks.skip fun _ => .pure _).carries

/-! ## Operands -/

theorem literal_keeps (lo : Nat) (leaf : Leaf) : Keeps .ready (literal lo leaf) :=
  bump_keeps.skip fun _ => node_keeps lo _

theorem primary_keeps (hg : g.KeepsFlaws) : Keeps .none (primary g) := by
  refine .look start_looks fun lo => .look get_looks fun r => peek_carries.bind fun o ho => ?_
  split
  all_goals try exact literal_keeps lo _
  all_goals try exact absurd (bareMarks_of_isBare (ho _ rfl)) (by decide)
  · exact .unasked (.stops (function_stops _ _ _ _))
  · exact .unasked (.stops (class_stops hg _ _))
  · exact .unasked (nameOrArrow_keeps _ _)
  · next w _ _ _ _ _ _ =>
    have hbreak : Looks (do return !(← lineBreakAhead)) fun _ _ => True :=
      lineBreakAhead_looks.skip fun _ => .pure _
    refine .look (.both (.pure _) hbreak) fun _ => ?_
    extract_lets name
    have hname : Keeps .none (name ()) :=
      .look context_looks fun _ => .ite (nameOrArrow_keeps _ _)
        (.look here_looks fun _ => .stops (refuse_stops _ _))
    refine .ite (.look (isAhead_looks _) fun _ => .ite ?_ ?_) (.unasked hname)
    · exact bump_keeps.skip fun _ => .stops (function_stops _ _ _ _)
    · refine (isAhead_absent (by decide)).bind fun b hb => .fails ?_ (.unasked hname)
      rw [hb, Bool.and_false]
      exact Bool.false_ne_true
  · exact .look here_looks fun _ => .stops (refuse_stops _ _)

theorem importExpression_keeps : Keeps .ready importExpression := by
  refine .look start_looks fun lo => bump_keeps.skip fun _ =>
    .look (spanFrom_looks lo) fun span => ?_
  refine (eat_keeps _).skip fun _ => .ite ?_ ?_
  · refine .look (modify_looks fun _ => ⟨rfl, rfl, rfl⟩) fun _ =>
      anyWord_keeps.skip fun property => ?_
    refine .ite (node_keeps lo _) ?_
    split
    · exact node_keeps lo _
    · exact .stops (unexpected_stops _)
  · exact .look (isAt_looks _) fun _ => .ite (.pure trivial) (.stops (unexpected_stops _))

theorem arguments_stops (isImport : Bool) : Stops k (arguments g isImport) :=
  .look start_looks fun _ => .ends (expect_absent (by decide))

theorem access_keeps (lo : Nat) (object key : Node) (isOptional noCall : Bool) :
    Keeps .none (access lo object key isOptional noCall) := by
  refine refusing (.look (spanFrom_looks lo) fun span => .ite (.pure trivial) ?_)
  exact .look context_looks fun ctx => refusing (refusing (refusing (.pure trivial)))

theorem accesses_keeps (hg : g.KeepsFlaws) (lo : Nat) (object : Node) (noCall : Bool) :
    Keeps .none (accesses g lo object noCall) := by
  refine (Carries.both_fails (isAt_absent (by decide))).bind fun isOptional hno => ?_
  extract_lets form more template imported call
  have hmore (key : Node) : Keeps .none (more key) :=
    (access_keeps _ _ _ _ _).skip fun _ => hg.accesses _ _ _
  have htemplate : Keeps .none (template ()) := .no (isAt_absent (by decide)) (.pure trivial)
  have hcall : Keeps .none (call ()) := by
    refine .look start_looks fun keyStart => .no (eat_absent (by decide)) ?_
    refine .look (isAt_looks _) fun _ => .ite (.ends (arguments_stops _)) ?_
    refine (eat_keeps _).skip fun _ => .ite ?_ (refusing (refusing htemplate))
    exact .no (isAt_absent (by decide)) (.skip (.map anyWord_keeps) hmore)
  exact .fails (by simp [hno]) hcall

theorem newExpression_keeps (hg : g.KeepsFlaws) (mayLackArguments : Bool) :
    Keeps .ready (newExpression g mayLackArguments) := by
  refine .look start_looks fun lo => bump_keeps.skip fun _ => (eat_keeps _).skip fun _ => .ite ?_ ?_
  · refine (eat_keeps _).skip fun _ => .when (.stops (unexpected_stops _)) ?_
    refine .look context_looks fun ctx => .when (note_keeps _ _) ?_
    exact .look (spanFrom_looks lo) fun _ => hg.accesses _ _ _
  · refine (hg.member _).skip fun callee => .ite (.pure trivial) ?_
    extract_lets rest
    have hrest : Keeps .none (rest ()) :=
      .look (isAt_looks _) fun _ => .ite (.ends (arguments_stops _)) (node_keeps lo _)
    refine .ite ?_ hrest
    split
    · exact .when (.stops (refuse_stops _ _)) hrest
    · exact .when (.stops (refuse_stops _ _)) hrest

theorem member_keeps (hg : g.KeepsFlaws) (mayLackArguments : Bool) :
    Keeps .none (member g mayLackArguments) := by
  refine .look start_looks fun lo => .ask (isAt_carries _) (newExpression_keeps hg _) ?_
  refine peek_carries.bind fun o _ => ?_
  extract_lets rest
  have hrest (object : Node) : Keeps .none (rest object) := .ite (.pure trivial) (hg.accesses _ _ _)
  split
  · exact (literal_keeps lo _).skip hrest
  · exact importExpression_keeps.skip hrest
  · exact .unasked ((primary_keeps hg).skip hrest)

theorem leftHandSide_keeps (hg : g.KeepsFlaws) : Keeps .none (leftHandSide g) := by
  refine .look start_looks fun lo => .ask (isAt_carries _) ?_ (.ask (isAt_carries _) ?_ ?_)
  · exact (literal_keeps lo _).skip fun _ => hg.accesses _ _ _
  · exact importExpression_keeps.skip fun _ => hg.accesses _ _ _
  · refine (hg.member _).skip fun callee => .ite (.pure trivial) ?_
    exact .look (isAt_looks _) fun _ => .ite (hg.accesses _ _ _) (.pure trivial)

/-! ## Operators -/

theorem awaitTail_keeps (hg : g.KeepsFlaws) (lo : Nat) : Keeps .none (awaitTail g lo) := by
  refine .look (spanFrom_looks lo) fun span => .look (isAt_looks _) fun _ => refusing ?_
  refine .look context_looks fun ctx => .look (isAtAny_looks _) fun _ =>
    .look atStatementEnd_looks ?_
  refine fun _ => .ite (.when (note_keeps _ _) (.pure trivial)) ?_
  extract_lets operand parameters
  have hoperand : Keeps .none (operand ()) := hg.unary.skip fun _ => node_keeps lo _
  have hparameters : Keeps .none (parameters ()) := .when (note_keeps _ _) hoperand
  exact .when₂ here_looks.carries (fun _ => note_keeps _ _) hparameters

theorem await_keeps (hg : g.KeepsFlaws) : Keeps .ready (await g) :=
  .look start_looks fun lo => bump_keeps.skip fun _ => awaitTail_keeps hg lo

theorem unary_keeps (hg : g.KeepsFlaws) : Keeps .none (unary g) := by
  refine .look start_looks fun lo => peek_carries.bind fun o ho => ?_
  split
  all_goals try exact absurd (bareMarks_of_isBare (ho _ rfl)) (by decide)
  case h_10 => exact await_keeps hg
  case h_11 =>
    refine .unasked ((leftHandSide_keeps hg).skip fun arg => .ite (.pure trivial) ?_)
    refine .look lineBreakBefore_looks fun _ => .ite (.pure trivial) ?_
    exact .no (isAtAny_absent (by decide)) (.pure trivial)
  all_goals
    refine .look shown_looks fun op => bump_keeps.skip fun _ => .look start_looks fun before => ?_
    refine .skip (.rescue hg.unary fun d => ?_) fun arg => ?_
    · exact .of_noted (note_carries _ _) fun _ => .pure trivial
    · exact .ite (.when (noteInModule_looks _ _).carries (.pure trivial)) (.pure trivial)

/-- What a binary operator that has been looked at tells about taking it. -/
def Hint.ofOperator : Option String → Hint
  | some _ => ready
  | Option.none => none

theorem binaryOperator_carries : Carries .none binaryOperator (fun _ => True) Hint.ofOperator := by
  refine .look context_looks fun ctx => peek_carries.bind fun o _ => ?_
  have hsome {op : Option String} :
      Carries .ready (pure op) (fun _ => True) Hint.ofOperator := by
    intro stage r hr hk
    refine ⟨hr, trivial, ?_⟩
    cases op with
    | none => trivial
    | some op => exact hk
  split
  · exact hsome
  · exact hsome
  · exact hsome
  · exact fun _ _ hr _ => ⟨hr, trivial, trivial⟩

theorem binaryOperator_keeps : Keeps .none binaryOperator :=
  binaryOperator_carries.mono (fun _ h => h) fun _ _ _ _ => trivial

theorem operators_keeps (hg : g.KeepsFlaws) (left : Node) (least : Nat) :
    Keeps .none (operators g left least) := by
  refine binaryOperator_carries.bind fun o _ => ?_
  cases o with
  | none => exact .pure trivial
  | some op =>
    dsimp -zeta only
    cases strength? op with
    | none => exact .unasked (.pure trivial)
    | some strength =>
      refine .ite (.unasked (.pure trivial)) (bump_keeps.skip fun _ => ?_)
      extract_lets behind
      have hbehind : Keeps .none (behind ()) := by
        refine hg.unary.skip fun operand => (hg.operators _ _).skip fun right => ?_
        have hlast :=
          hg.operators (.binary (left.span.join right.span) (.operator op) left right) least
        cases mixesCoalescing op left <;> cases mixesCoalescing op right
        · exact hlast
        · exact (note_keeps _ _).skip fun _ => hlast
        · exact (note_keeps _ _).skip fun _ => hlast
        · exact (note_keeps _ _).skip fun _ => (note_keeps _ _).skip fun _ => hlast
      refine .ite ?_ hbehind
      split
      · exact .look here_looks fun _ => .ends (refuse_stops _ _)
      · exact .look here_looks fun _ => .ends (refuse_stops _ _)
      · exact hbehind

theorem operation_keeps (hg : g.KeepsFlaws) : Keeps .none (operation g) := by
  have hbehind (left : Node) :
      Keeps .none (if left.isArrow then pure left else g.operators left 0) :=
    .ite (.pure trivial) (hg.operators _ _)
  refine .attempt hg.unary (fun n _ => .skip (.pure trivial) hbehind) fun d => ?_
  refine .skip need_keeps fun _ => .skip binaryOperator_keeps fun o => .ite ?_ (.ends d)
  refine .skip here_looks.carries fun _ => .of_noted (note_carries _ _) fun _ => ?_
  exact .unasked (.skip (.pure trivial) hbehind)

theorem conditional_keeps (hg : g.KeepsFlaws) : Keeps .none (conditional g) := by
  refine .look start_looks fun lo => (operation_keeps hg).skip fun test => .ite (.pure trivial) ?_
  exact .no (eat_absent (by decide)) (.pure trivial)

theorem yield_keeps (hg : g.KeepsFlaws) : Keeps .ready (yield g) := by
  refine .look start_looks fun lo => bump_keeps.skip fun _ => .look context_looks fun ctx => ?_
  refine .when₂ lastStart_looks.carries (fun _ => .stops (refuse_stops _ _)) ?_
  refine .look atStatementEnd_looks fun _ =>
    .ite (node_keeps lo _) (refuseFlaw_carries.skip fun _ => ?_)
  refine .look peek_looks fun next => .ite (node_keeps lo _) ((eat_keeps _).skip fun _ => ?_)
  exact hg.assignment.skip fun _ => node_keeps lo _

/-- No assignment follows in a bare text. -/
theorem assignmentTail_keeps (lo : Nat) (left : Node) : Keeps .none (assignmentTail g lo left) := by
  refine peek_carries.bind fun o ho => ?_
  split
  · next op =>
    have hno : Token.assignOperators.contains op = false := by
      have hall : ∀ m ∈ Lexer.bareMarks, Token.assignOperators.contains m = false := by decide
      exact hall op (bareMarks_of_isBare (ho _ rfl))
    rw [hno]
    exact .unasked (.pure trivial)
  · exact .unasked (.pure trivial)

theorem assignment_keeps (hg : g.KeepsFlaws) : Keeps .none (assignment g) := by
  refine .look context_looks fun ctx => (isAt_carries _).bind fun b _ => ?_
  cases b
  case' false => refine .fails (by simp) ?_
  case' true => refine .ite (yield_keeps hg) (.unasked ?_)
  -- What is no yield expression is read alike, inside of generators and outside.
  all_goals
    refine .look start_looks fun lo => need_carries.bind fun t _ => ?_
    refine .look (modify_looks fun _ => ⟨rfl, rfl, rfl⟩) fun _ => .unasked ?_
    refine (conditional_keeps hg).skip fun n => .ite (.pure trivial) ?_
    split
    case h_6 => exact assignmentTail_keeps lo n
    all_goals exact .pure trivial

theorem expression_keeps (hg : g.KeepsFlaws) : Keeps .none (expression g) := by
  refine hg.assignment.skip fun first => (isAt_absent (by decide)).bind ?_
  rintro _ rfl
  exact .pure trivial

end Parse

end LoopGuard
