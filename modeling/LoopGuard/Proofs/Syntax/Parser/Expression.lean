import LoopGuard.Proofs.Syntax.Parser.Member
import LoopGuard.Syntax.Parser.Expression

/-!
# Expressions that are read

Results:
* `Parse.operators_written`, `Parse.unary_written`: operators and their operands.
* `Parse.assignment_written`, `Parse.expression_written`: assignments, and expressions with commas.
* `Parse.accesses_written`, `Parse.member_written`: members, calls and what they start from.
-/

namespace LoopGuard

namespace Parse

variable {g : Grammar}

/-! ## Operators -/

theorem operators_written (hg : g.ReadsWritten) {left : Node} (hleft : left.IsWritten)
    (least : Nat) : Returns (operators g left least) Node.IsWritten := by
  refine .skip fun op => ?_
  cases op with
  | none => exact .pure hleft
  | some op =>
    dsimp -zeta only
    cases strength? op with
    | none => exact .pure hleft
    | some strength =>
      refine .ite (.pure hleft) (.skip fun _ => ?_)
      extract_lets behind
      have hbehind : Returns (behind ()) Node.IsWritten := by
        refine .bind hg.unary fun operand hoperand => ?_
        refine .bind (hg.operators operand _ hoperand) fun right hright => ?_
        have hlast := hg.operators (.binary (left.span.join right.span) (.operator op) left right)
          least ((Node.isWritten_binary _ _ _ _).2 ⟨hleft, hright⟩)
        cases mixesCoalescing op left <;> cases mixesCoalescing op right
        · exact hlast
        · exact .skip fun _ => hlast
        · exact .skip fun _ => hlast
        · exact .skip fun _ => .skip fun _ => hlast
      refine .ite ?_ hbehind
      split
      · exact .skip fun _ => .skip fun _ => hbehind
      · exact .skip fun _ => .skip fun _ => hbehind
      · exact hbehind

theorem operation_written (hg : g.ReadsWritten) : Returns (operation g) Node.IsWritten := by
  refine .bind (Returns.attempt hg.unary) fun first hfirst => ?_
  extract_lets behind
  have hbehind (left : Node) (hleft : left.IsWritten) : Returns (behind left) Node.IsWritten :=
    .ite (.pure hleft) (hg.operators left 0 hleft)
  cases first with
  | ok n => exact .bind (.pure (hfirst n rfl)) hbehind
  | error d =>
    refine .skip fun _ => .skip fun _ => .ite (.skip fun _ => .skip fun _ => ?_) ?_
    · exact .bind (.pure (Node.isWritten_leaf _ _)) hbehind
    · exact .bind (.throw d) hbehind

theorem awaitTail_written (hg : g.ReadsWritten) (lo : Nat) :
    Returns (awaitTail g lo) Node.IsWritten := by
  refine .skip fun span => .skip fun _ => .when (.skip fun ctx => .skip fun _ => .skip fun _ => ?_)
  refine .ite (.when (.pure (Node.isWritten_leaf _ _))) ?_
  extract_lets operand behind
  have hbehind : Returns (behind ()) Node.IsWritten :=
    .when (.bind hg.unary fun arg harg => .unary harg)
  exact .ite (.skip fun _ => .skip fun _ => hbehind) hbehind

theorem await_written (hg : g.ReadsWritten) : Returns (await g) Node.IsWritten :=
  .skip fun lo => .skip fun _ => awaitTail_written hg lo

theorem literal_written (lo : Nat) (leaf : Leaf) : Returns (literal lo leaf) Node.IsWritten :=
  .skip fun _ => .leaf

theorem importExpression_written : Returns importExpression Node.IsWritten := by
  refine .skip fun lo => .skip fun _ => .skip fun span => .skip fun _ => .ite ?_ (.skip fun _ => ?_)
  · refine .skip fun _ => .skip fun property => .ite .leaf ?_
    split
    · exact .leaf
    · exact .unexpected _
  · exact .ite (.pure (Node.isWritten_leaf _ _)) (.unexpected _)

theorem leftHandSide_written (hg : g.ReadsWritten) : Returns (leftHandSide g) Node.IsWritten := by
  refine .skip fun lo => .skip fun _ => .ite ?_ (.skip fun _ => .ite ?_ ?_)
  · exact .bind (literal_written lo .super) fun object h => hg.accesses lo object false h
  · exact .bind importExpression_written fun object h => hg.accesses lo object false h
  · refine .bind (hg.member true) fun callee h => .ite (.pure h) (.skip fun _ => ?_)
    exact .ite (hg.accesses lo callee false h) (.pure h)

theorem unary_written (hg : g.ReadsWritten) : Returns (unary g) Node.IsWritten := by
  refine .skip fun lo => .skip fun token => ?_
  split
  case h_1 | h_2 =>
    refine .skip fun _ => .skip fun _ => .bind hg.unary fun arg harg => .skip fun _ => .pure ?_
    exact (Node.isWritten_unary _ _ _).2 harg
  case h_10 => exact await_written hg
  case h_11 =>
    refine .bind (leftHandSide_written hg) fun arg harg => .ite (.pure harg) ?_
    refine .skip fun _ => .ite (.pure harg) (.skip fun _ => .ite ?_ (.pure harg))
    exact .skip fun _ => .skip fun _ => .skip fun _ => .unary harg
  all_goals
    refine .skip fun op => .skip fun _ => .skip fun before => .bind (.tryCatch hg.unary ?_) ?_
    · exact fun d => .skip fun _ => .pure (Node.isWritten_leaf _ _)
    · intro arg harg
      have h (span : Span) := (Node.isWritten_unary span (.operator op) arg).2 harg
      exact .ite (.when (.pure (h _))) (.pure (h _))

/-! ## Assignments -/

theorem conditional_written (hg : g.ReadsWritten) : Returns (conditional g) Node.IsWritten := by
  refine .skip fun lo => .bind (operation_written hg) fun test htest => .ite (.pure htest) ?_
  refine .skip fun _ => .ite ?_ (.pure htest)
  refine .bind (.allowingIn hg.assignment) fun yes hyes => .skip fun _ => ?_
  refine .bind hg.assignment fun no hno => .pure ?_
  exact (Node.isWritten_conditional _ _ _ _).2 ⟨htest, hyes, hno⟩

theorem yield_written (hg : g.ReadsWritten) : Returns (yield g) Node.IsWritten := by
  refine .skip fun lo => .skip fun _ => .skip fun ctx => ?_
  extract_lets behind
  have hbehind : Returns (behind ()) Node.IsWritten := by
    refine .skip fun _ => .ite .leaf (.skip fun _ => ?_)
    refine .skip fun next => .ite .leaf (.skip fun _ => ?_)
    exact .bind hg.assignment fun arg harg => .unary harg
  exact .ite (.skip fun _ => .skip fun _ => hbehind) hbehind

theorem assignmentTail_written (hg : g.ReadsWritten) (lo : Nat) {left : Node}
    (hleft : left.IsWritten) : Returns (assignmentTail g lo left) Node.IsWritten := by
  refine .skip fun token => ?_
  split
  · refine .ite (.pure hleft) ?_
    extract_lets assign
    have hassign (left : Node) (hleft : left.IsWritten) : Returns (assign left) Node.IsWritten :=
      .when (.skip fun _ => .bind hg.assignment fun right hright => .binary hleft hright)
    refine .ite (.bind (toPattern_written .target left hleft) hassign) (.skip fun _ => ?_)
    exact .when (.bind (.pure hleft) hassign)
  · exact .pure hleft

theorem assignment_written (hg : g.ReadsWritten) : Returns (assignment g) Node.IsWritten := by
  refine .skip fun _ => .skip fun _ => .ite (yield_written hg) (.skip fun lo => .skip fun _ => ?_)
  refine .skip fun _ => .bind (conditional_written hg) fun n hn => .ite (.pure hn) ?_
  split
  case h_6 => exact assignmentTail_written hg lo hn
  all_goals exact .pure hn

theorem expression_written (hg : g.ReadsWritten) : Returns (expression g) Node.IsWritten := by
  refine .bind hg.assignment fun first hfirst => .skip fun _ => .ite (.pure hfirst) ?_
  refine .bind (Q := Node.AreWritten) (.loop ?_ fun items hitems => .skip fun _ => ?_) ?_
  · exact List.forall_mem_singleton.2 hfirst
  · refine .ite (.bind hg.assignment fun item hitem => .pure ?_) (.pure hitems)
    exact List.forall_mem_cons.2 ⟨hitem, hitems⟩
  · exact fun items hitems => .group hitems

/-! ## Members and calls -/

theorem spreadOrAssignment_written (hg : g.ReadsWritten) :
    Returns (spreadOrAssignment g) Node.IsWritten := by
  refine .skip fun lo => .skip fun _ => .ite ?_ hg.assignment
  exact .bind (.allowingIn hg.assignment) fun arg harg => .unary harg

theorem arguments_written (hg : g.ReadsWritten) (isImport : Bool) :
    Returns (arguments g isImport) Node.AreWritten := by
  refine .skip fun lo => .skip fun _ => .bind (Q := Node.AreWritten) ?_ ?_
  · refine .loop (List.forall_mem_nil _) fun args hargs => .skip fun _ => .skip fun _ => ?_
    refine .ite (.pure hargs) ?_
    extract_lets argument
    have hargument : Returns (argument ()) (Step.Holds Node.AreWritten) := by
      refine .bind (.allowingIn (spreadOrAssignment_written hg)) fun arg harg => .pure ?_
      exact List.forall_mem_cons.2 ⟨harg, hargs⟩
    refine .ite (.skip fun _ => .skip fun _ => .ite ?_ hargument) hargument
    exact .when (.pure hargs)
  · exact fun args hargs => .skip fun _ => .pure fun n hn => hargs n (List.mem_reverse.1 hn)

theorem templateChunk_written (tagged : Bool) : Returns (templateChunk tagged) Node.IsWritten := by
  refine .skip fun lo => .skip fun token => ?_
  split
  · refine .skip fun _ => ?_
    extract_lets behind
    have hbehind : Returns (behind ()) Node.IsWritten := .leaf
    split
    · exact .when hbehind
    · exact hbehind
  · exact .unexpected _

theorem template_written (hg : g.ReadsWritten) (tagged : Bool) :
    Returns (template g tagged) Node.IsWritten := by
  refine .skip fun lo => .skip fun _ => .bind (templateChunk_written tagged) fun first hfirst => ?_
  refine .bind (Q := Node.AreWritten) (.loop ?_ fun items hitems => .skip fun _ => ?_) ?_
  · exact List.forall_mem_singleton.2 hfirst
  · refine .ite (.pure hitems) (.skip fun _ => .bind (.allowingIn hg.expression) ?_)
    intro value hvalue
    refine .skip fun _ => .bind (templateChunk_written tagged) fun text htext => .pure ?_
    exact List.forall_mem_cons.2 ⟨htext, List.forall_mem_cons.2 ⟨hvalue, hitems⟩⟩
  · exact fun items hitems => .skip fun _ => .group hitems

theorem access_written (lo : Nat) {object key : Node} (hobject : object.IsWritten)
    (hkey : key.IsWritten) (isOptional noCall : Bool) :
    Returns (access lo object key isOptional noCall) Node.IsWritten := by
  have h (span : Span) (form : BinaryForm) := (Node.isWritten_binary span form object key).2
    ⟨hobject, hkey⟩
  refine .when₂ (.skip fun span => .ite (.pure (h _ _)) (.skip fun ctx => ?_))
  exact .when₂ (.when₂ (.when₂ (.pure (h _ _))))

theorem accesses_written (hg : g.ReadsWritten) (lo : Nat) {object : Node}
    (hobject : object.IsWritten) (noCall : Bool) :
    Returns (accesses g lo object noCall) Node.IsWritten := by
  refine .skip fun isOptional => ?_
  extract_lets form reach tag plain read
  have hreach (key : Node) (hkey : key.IsWritten) : Returns (reach key) Node.IsWritten :=
    .bind (access_written lo hobject hkey isOptional noCall) fun n hn => hg.accesses lo n noCall hn
  have htag : Returns (tag ()) Node.IsWritten := by
    refine .skip fun _ => .ite (.bind (template_written hg true) ?_) (.pure hobject)
    intro text htext
    refine .when (.skip fun span => hg.accesses lo _ noCall ?_)
    exact (Node.isWritten_binary _ _ _ _).2 ⟨hobject, htext⟩
  have hplain : Returns (plain ()) Node.IsWritten := .when₂ htag
  have hread : Returns (read ()) Node.IsWritten := by
    refine .skip fun keyStart => .skip fun _ => .ite ?_ (.skip fun _ => .ite ?_ (.skip fun _ => ?_))
    · refine .bind (.allowingIn hg.expression) fun key hkey => .skip fun _ => .skip fun span => ?_
      exact hreach _ ((Node.isWritten_unary _ _ _).2 hkey)
    · refine .bind (arguments_written hg _) fun args hargs => .when₂ ?_
      refine .bind (spanFrom_returns lo) fun span hspan => hg.accesses lo _ noCall ?_
      exact (Node.isWritten_call _ _ _ _).2 ⟨hspan, hobject, hargs⟩
    · refine .ite (.skip fun _ => .either privateName_written ?_ hreach) (.when₂ hplain)
      exact .map fun _ label _ _ => label.node_written
  exact .ite (.skip fun _ => .skip fun next => .when hread) hread

theorem newExpression_written (hg : g.ReadsWritten) (mayLackArguments : Bool) :
    Returns (newExpression g mayLackArguments) Node.IsWritten := by
  refine .skip fun lo => .skip fun _ => .skip fun _ => .ite ?_ ?_
  · refine .skip fun _ => .when (.skip fun ctx => .when (.skip fun span => ?_))
    exact hg.accesses lo _ true (Node.isWritten_leaf _ _)
  · refine .bind (hg.member mayLackArguments) fun callee hcallee => .ite (.pure hcallee) ?_
    extract_lets behind
    have hcall (span : Span) (form : CallForm) (args : List Node) (hspan : span ≠ .synthetic)
        (hargs : Node.AreWritten args) : (Node.call span form callee args).IsWritten :=
      (Node.isWritten_call _ _ _ _).2 ⟨hspan, hcallee, hargs⟩
    have hbehind : Returns (behind ()) Node.IsWritten := by
      refine .skip fun _ => .ite (.bind (arguments_written hg false) fun args hargs => ?_) ?_
      · refine .bind (spanFrom_returns lo) fun span hspan => ?_
        exact hg.accesses lo _ true (hcall _ _ _ hspan hargs)
      · refine .bind (spanFrom_returns lo) fun span hspan => ?_
        exact .pure (hcall _ _ _ hspan (List.forall_mem_nil _))
    refine .ite ?_ hbehind
    split
    · exact .when hbehind
    · exact .when hbehind

/-! ## Primary expressions -/

theorem array_written (hg : g.ReadsWritten) : Returns (array g) Node.IsWritten := by
  refine .skip fun lo => .skip fun _ => .bind (Q := Node.AreWritten) ?_ ?_
  · refine .loop (List.forall_mem_nil _) fun items hitems => .skip fun _ => .skip fun _ => ?_
    refine .ite (.pure hitems) (.skip fun _ => .ite (.pure ?_) ?_)
    · exact List.forall_mem_cons.2 ⟨Node.isWritten_leaf _ _, hitems⟩
    refine .bind (.allowingIn (spreadOrAssignment_written hg)) fun item hitem => .skip fun _ => ?_
    have hmore : Node.AreWritten (item :: items) := List.forall_mem_cons.2 ⟨hitem, hitems⟩
    exact .ite (.skip fun _ => .skip fun _ => .when₂ (.pure hmore)) (.pure hmore)
  · exact fun items hitems => .skip fun _ => .group hitems

theorem regex_written : Returns regex Node.IsWritten := by
  refine .skip fun lo => .skip fun _ => .skip fun _ => .skip fun token => ?_
  split
  · refine .skip fun _ => .when ?_
    extract_lets behind
    have hbehind : Returns (behind ()) Node.IsWritten := .leaf
    split
    · exact .skip fun _ => hbehind
    · exact hbehind
  · exact .refuse _ _

theorem itemsArrow_written (hg : g.ReadsWritten) (lo : Nat) {items : List Node}
    (hitems : Node.AreWritten items) : Returns (itemsArrow g lo items) Node.AreWritten := by
  have hreverse : Node.AreWritten items.reverse := fun n hn => hitems n (List.mem_reverse.1 hn)
  refine .skip fun _ => .ite (.bind (toParameters_written none hreverse) ?_) (.pure hitems)
  intro params hparams
  refine .bind (arrowTail_written hg lo false hparams) fun arrow harrow => .pure ?_
  exact List.forall_mem_cons.2 ⟨harrow, hitems⟩

theorem parenItems_written (hg : g.ReadsWritten) :
    Returns (parenItems g) fun read => Node.AreWritten read.1 := by
  refine .skip fun _ => .bind (Q := fun read => Node.AreWritten read.1) ?_ ?_
  · refine .loop (List.forall_mem_nil _) fun ⟨items, comma⟩ hitems => ?_
    refine .skip fun _ => .skip fun _ => ?_
    refine .ite (.pure hitems) (.skip fun lo => .skip fun _ => ?_)
    refine .bind (.allowingIn (spreadOrAssignment_written hg)) fun item hitem => ?_
    refine .bind (itemsArrow_written hg lo (List.forall_mem_cons.2 ⟨hitem, hitems⟩)) ?_
    intro items hitems
    refine .skip fun _ => .ite (.skip fun _ => .skip fun _ => ?_) (.pure hitems)
    exact .either .any .any fun _ _ => .pure hitems
  · exact fun ⟨items, comma⟩ hitems => .skip fun _ => .pure fun n hn =>
      hitems n (List.mem_reverse.1 hn)

theorem parenthesized_written (lo : Nat) {items : List Node} (hitems : Node.AreWritten items) :
    Returns (parenthesized lo items) Node.IsWritten := by
  refine .skip fun _ => ?_
  match items, hitems with
  | [], _ => exact .refuse _ _
  | [item], h => exact .unary (List.forall_mem_singleton.1 h)
  | first :: second :: rest, h => exact .unary ((Node.isWritten_group _ _ _).2 h)

theorem parens_written (hg : g.ReadsWritten) (mayBeArrow : Bool) (asyncAt : Option Span) :
    Returns (parens g mayBeArrow asyncAt) Node.IsWritten := by
  refine .skip fun parenStart => .bind (.allowingIn (parenItems_written hg)) ?_
  rintro ⟨items, comma⟩ hitems
  refine .skip fun _ => .ite (.skip fun _ => .when (.when (.skip fun _ => ?_))) (.skip fun _ => ?_)
  · refine .bind (toParameters_written comma hitems) fun params hparams => ?_
    refine .bind (arrowTail_written hg _ _ hparams) fun arrow harrow => ?_
    extract_lets behind
    have hbehind : Returns (behind ()) Node.IsWritten := .pure harrow
    split
    · refine .skip fun _ => .ite (.skip fun _ => .skip fun _ => ?_) hbehind
      exact .bind (hg.operators _ 0 harrow) fun n hn => .skip fun _ => .when₂ (.pure hn)
    · exact hbehind
  · cases asyncAt with
    | none => exact parenthesized_written _ hitems
    | some span =>
      refine .bind (spanFrom_returns _) fun callSpan hspan => .pure ?_
      exact (Node.isWritten_call _ _ _ _).2 ⟨hspan, Node.isWritten_leaf _ _, hitems⟩

theorem nameOrArrow_written (hg : g.ReadsWritten) (lo : Nat) (mayBeArrow : Bool) :
    Returns (nameOrArrow g lo mayBeArrow) Node.IsWritten := by
  have harrow (isAsync : Bool) (label : Label) :=
    arrowTail_written hg lo isAsync (List.forall_mem_singleton.2 label.node_written)
  refine .skip fun label => .skip fun _ => .skip fun _ => .skip fun _ => .ite ?_ (.skip fun _ => ?_)
  · refine .skip fun ctx => .skip fun _ => .ite (.when₂ (.pure label.node_written)) ?_
    exact .skip fun param => .skip fun _ => harrow true param
  · refine .ite (.ite (.skip fun _ => ?_) ?_) (.pure label.node_written)
    · exact .when (harrow false label)
    · exact harrow false label

theorem primary_written (hg : g.ReadsWritten) : Returns (primary g) Node.IsWritten := by
  refine .skip fun lo => .skip fun r => .skip fun token => ?_
  split
  case h_8 => exact (function_written hg _ _ _ _).mono fun _ h => h.2
  case h_9 => exact (class_written hg _ _).mono fun _ h => h.2
  case h_10 => exact array_written hg
  case h_11 => exact object_written hg
  case h_12 | h_13 => exact regex_written
  case h_14 => exact template_written hg false
  case h_15 => exact parens_written hg _ none
  case h_16 => exact .skip fun _ => .skip fun label => .leaf
  case h_17 => exact nameOrArrow_written hg _ _
  case h_18 =>
    refine .skip fun _ => ?_
    extract_lets other
    have hother : Returns (other ()) Node.IsWritten :=
      .skip fun _ => .ite (nameOrArrow_written hg _ _) (.skip fun _ => .refuse _ _)
    refine .ite (.skip fun _ => .ite ?_ (.skip fun _ => .ite ?_ hother)) hother
    · exact .skip fun _ => (function_written hg _ _ _ _).mono fun _ h => h.2
    · exact .skip fun _ => .skip fun span => parens_written hg _ _
  case h_19 => exact .skip fun _ => .refuse _ _
  all_goals exact literal_written _ _

theorem member_written (hg : g.ReadsWritten) (mayLackArguments : Bool) :
    Returns (member g mayLackArguments) Node.IsWritten := by
  refine .skip fun lo => .skip fun _ => .ite (newExpression_written hg mayLackArguments) ?_
  refine .skip fun token => ?_
  extract_lets behind
  have hbehind (object : Node) (h : object.IsWritten) : Returns (behind object) Node.IsWritten :=
    .ite (.pure h) (hg.accesses lo object true h)
  split
  · exact .bind (literal_written lo .super) hbehind
  · exact .bind importExpression_written hbehind
  · exact .bind (primary_written hg) hbehind

end Parse

end LoopGuard
