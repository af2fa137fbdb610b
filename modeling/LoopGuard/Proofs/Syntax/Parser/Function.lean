import LoopGuard.Proofs.Syntax.Parser.Pattern
import LoopGuard.Syntax.Parser.Function

/-!
# Functions that are read

What a grammar has to read for the constructs of one level to be written, and the pieces of
functions: keys, declaring patterns, parameters and bodies.

Results:
* `Grammar.ReadsWritten`: everything that a grammar reads has a place in a source.
* `Parse.binding_written`: declaring patterns.
* `Parse.function_written`, `Parse.arrowTail_written`: functions with their bodies.
-/

namespace LoopGuard

open Parse in
/-- Whether everything that a grammar reads has a place in a source. -/
structure Grammar.ReadsWritten (g : Grammar) : Prop where
  assignment : Returns g.assignment Node.IsWritten
  expression : Returns g.expression Node.IsWritten
  unary : Returns g.unary Node.IsWritten
  leftHandSide : Returns g.leftHandSide Node.IsWritten
  operators (left : Node) (least : Nat) : left.IsWritten →
    Returns (g.operators left least) Node.IsWritten
  member (bare : Bool) : Returns (g.member bare) Node.IsWritten
  accesses (lo : Nat) (object : Node) (noCall : Bool) : object.IsWritten →
    Returns (g.accesses lo object noCall) Node.IsWritten
  binding (letIsReserved : Bool) : Returns (g.binding letIsReserved) Node.IsWritten
  statement (declarations top : Bool) : Returns (g.statement declarations top) Stmt.IsWritten
  block (directives : Bool) : Returns (g.block directives) fun b => (Stmt.block b).IsWritten

namespace Parse

variable {g : Grammar}

/-! ## Nodes at the place that was read -/

namespace Returns

variable {place : Parse Span}

theorem leaf {l : Leaf} : Returns (do return .leaf (← place) l) Node.IsWritten :=
  .skip fun _ => .pure (Node.isWritten_leaf _ _)

theorem unary {form : UnaryForm} {arg : Node} (h : arg.IsWritten) :
    Returns (do return .unary (← place) form arg) Node.IsWritten :=
  .skip fun _ => .pure ((Node.isWritten_unary _ _ _).2 h)

theorem binary {form : BinaryForm} {left right : Node} (hl : left.IsWritten)
    (hr : right.IsWritten) : Returns (do return .binary (← place) form left right) Node.IsWritten :=
  .skip fun _ => .pure ((Node.isWritten_binary _ _ _ _).2 ⟨hl, hr⟩)

/-- Items are collected last first. -/
theorem group {form : GroupForm} {items : List Node} (h : Node.AreWritten items) :
    Returns (do return .group (← place) form items.reverse) Node.IsWritten := by
  refine .skip fun _ => .pure ((Node.isWritten_group _ _ _).2 fun n hn => ?_)
  exact h n (List.mem_reverse.1 hn)

end Returns

/-! ## Declaring patterns -/

theorem propertyKey_written (hg : g.ReadsWritten) : Returns (propertyKey g) Node.IsWritten := by
  refine .skip fun lo => .skip fun token => ?_
  split
  case h_6 =>
    refine .skip fun _ => .bind (.allowingIn hg.assignment) fun key hkey => ?_
    exact .skip fun _ => .unary hkey
  case h_7 => exact .unexpected _
  all_goals exact .skip fun _ => .leaf

theorem bindingElement_written (hg : g.ReadsWritten) :
    Returns (bindingElement g) Node.IsWritten := by
  refine .skip fun lo => .bind (hg.binding false) fun left hleft => .skip fun _ => ?_
  refine .ite (.bind (.allowingIn hg.assignment) fun right hright => ?_) (.pure hleft)
  exact .binary hleft hright

theorem ArrayBinding.push_written {a : ArrayBinding} {item : Node} (h : Node.AreWritten a.items)
    (hitem : item.IsWritten) (isRest : Bool) (lo : Nat) :
    Node.AreWritten (a.push item isRest lo).items := by
  intro n hn
  simp only [ArrayBinding.push, List.mem_cons, List.mem_append, List.mem_replicate] at hn
  obtain rfl | ⟨-, rfl⟩ | hn := hn
  · exact hitem
  · exact Node.isWritten_leaf _ _
  · exact h n hn

theorem restBinding_written (hg : g.ReadsWritten) (lo : Nat) :
    Returns (restBinding g lo) Node.IsWritten :=
  .skip fun _ => .bind (hg.binding false) fun _ harg => .unary harg

theorem arrayBinding_written (hg : g.ReadsWritten) : Returns (arrayBinding g) Node.IsWritten := by
  refine .skip fun lo => .skip fun _ => .bind (Q := fun a => Node.AreWritten a.items) ?_ ?_
  · refine .loop (List.forall_mem_nil _) fun a ha => .skip fun _ => .skip fun _ => ?_
    refine .ite (.pure ha) (.skip fun itemStart => .skip fun _ => .ite (.pure ha) ?_)
    extract_lets element
    have helement : Returns (element ()) (Step.Holds fun a => Node.AreWritten a.items) := by
      refine .skip fun isRest => .either (restBinding_written hg _) (bindingElement_written hg) ?_
      intro item hitem
      have hpush := ArrayBinding.push_written ha hitem isRest itemStart
      exact .skip fun _ => .ite (.skip fun _ => .skip fun _ => .when (.pure hpush)) (.pure hpush)
    split
    · exact .skip fun _ => helement
    · exact helement
  · exact fun a ha => .skip fun _ => .group ha

theorem bindingProperty_written (hg : g.ReadsWritten) :
    Returns (bindingProperty g) Node.IsWritten := by
  refine .skip fun lo => .skip fun _ => .ite (restBinding_written hg lo) ?_
  refine .bind (propertyKey_written hg) fun key hkey => .skip fun _ => .ite ?_ ?_
  · exact .bind (bindingElement_written hg) fun value hvalue => .binary hkey hvalue
  · refine .when (.skip fun _ => .ite ?_ (.pure hkey))
    exact .bind (.allowingIn hg.assignment) fun value hvalue => .binary hkey hvalue

/-- The properties between braces, if each is read as a written one. -/
theorem braced_written {property : Parse Node} (h : Returns property Node.IsWritten) :
    Returns (braced property) fun read => Node.AreWritten read.1 := by
  refine .skip fun _ => .bind (Q := fun read => Node.AreWritten read.1) ?_ ?_
  · refine .loop (List.forall_mem_nil _) fun ⟨items, comma⟩ hitems => .skip fun _ => ?_
    refine .ite (.pure hitems) (.bind h fun item hitem => .skip fun _ => ?_)
    have hmore : Node.AreWritten (item :: items) := List.forall_mem_cons.2 ⟨hitem, hitems⟩
    refine .ite (.skip fun _ => .skip fun _ => ?_) (.pure hmore)
    exact .either .any .any fun _ _ => .pure hmore
  · exact fun ⟨items, comma⟩ hitems => .pure fun n hn => hitems n (List.mem_reverse.1 hn)

theorem objectBinding_written (hg : g.ReadsWritten) : Returns (objectBinding g) Node.IsWritten := by
  refine .skip fun lo => .bind (braced_written (bindingProperty_written hg)) ?_
  rintro ⟨items, comma⟩ hitems
  exact .skip fun _ => .skip fun _ => .pure ((Node.isWritten_group _ _ _).2 hitems)

theorem binding_written (hg : g.ReadsWritten) (letIsReserved : Bool) :
    Returns (binding g letIsReserved) Node.IsWritten := by
  refine .skip fun token => ?_
  split
  · exact .skip fun label => .pure label.node_written
  · exact .skip fun label => .pure label.node_written
  · exact arrayBinding_written hg
  · exact objectBinding_written hg
  · exact .unexpected _

/-! ## Parameters and bodies -/

theorem plainParameter_written (hg : g.ReadsWritten) (lo : Nat) :
    Returns (plainParameter g lo) Node.IsWritten := by
  refine .bind (bindingElement_written hg) fun pattern hpattern => .skip fun _ => ?_
  exact .ite (.bind hg.assignment fun right hright => .binary hpattern hright) (.pure hpattern)

theorem restParameter_written (hg : g.ReadsWritten) (lo : Nat) (readsDefault : Bool) :
    Returns (restParameter g lo readsDefault) Node.IsWritten := by
  refine .skip fun dots => .bind (hg.binding false) fun pattern hpattern => .skip fun _ => ?_
  refine .ite (.bind hg.assignment fun right hright => .skip fun _ => .skip fun _ => ?_)
    (.unary hpattern)
  exact .unary ((Node.isWritten_binary _ _ _ _).2 ⟨hpattern, hright⟩)

theorem parameters_written (hg : g.ReadsWritten) (readsRestDefault : Bool) :
    Returns (parameters g readsRestDefault) Node.AreWritten := by
  refine .bind (Q := fun read => Node.AreWritten read.1) ?_ ?_
  · refine .loop (List.forall_mem_nil _) fun ⟨params, restAt⟩ hparams => .skip fun _ => ?_
    refine .skip fun _ => .ite (.pure hparams) ?_
    extract_lets parameter
    have hparameter : Returns (parameter ()) (Step.Holds fun read => Node.AreWritten read.1) := by
      refine .skip fun lo => .skip fun isRest => ?_
      refine .either (restParameter_written hg _ _) (plainParameter_written hg _) ?_
      intro param hparam
      have hmore : Node.AreWritten (param :: params) := List.forall_mem_cons.2 ⟨hparam, hparams⟩
      exact .skip fun _ => .ite (.skip fun _ => .skip fun _ => .when (.pure hmore)) (.pure hmore)
    split
    · exact .skip fun _ => hparameter
    · exact hparameter
  · exact fun ⟨params, restAt⟩ hparams => .pure fun n hn => hparams n (List.mem_reverse.1 hn)

theorem Returns.inBody {isAsync isGenerator isArrow : Bool} {m : Parse α} {P : α → Prop}
    (hm : Returns m P) : Returns (Parse.inBody isAsync isGenerator isArrow m) P := by
  refine .skip fun outer => .skip fun _ => .bind (Returns.within hm).attempt fun result h => ?_
  refine .skip fun _ => ?_
  cases result with
  | ok a => exact .pure (h a rfl)
  | error d => exact .throw d

theorem functionTail_written (hg : g.ReadsWritten) (isAsync isGenerator : Bool)
    (check : List Node → Parse Unit) :
    Returns (functionTail g isAsync isGenerator check) fun read =>
      Node.AreWritten read.1 ∧ read.2.IsWritten := by
  refine .within (.skip fun _ => .bind (parameters_written hg true) fun params hparams => ?_)
  refine .skip fun _ => .skip fun _ => .bind (Q := Block.IsWritten) (.inBody ?_) ?_
  · exact .bind (.allowingIn (hg.block true)) fun body hbody => .skip fun _ => .pure hbody.2
  · exact fun body hbody => .pure ⟨hparams, hbody⟩

theorem methodTail_written (hg : g.ReadsWritten) (allowSuper isAsync isGenerator : Bool)
    (check : List Node → Parse Unit) :
    Returns (methodTail g allowSuper isAsync isGenerator check) fun read =>
      Node.AreWritten read.1 ∧ read.2.IsWritten :=
  .within (functionTail_written hg isAsync isGenerator check)

/-- A function can stand as a statement. -/
theorem function_written (hg : g.ReadsWritten) (lo : Nat) (isAsync needsName isExpression : Bool) :
    Returns (function g lo isAsync needsName isExpression) fun n =>
      (Stmt.declaration n).IsWritten := by
  refine .skip fun _ => .skip fun isGenerator => ?_
  extract_lets named
  have hnamed : Returns named fun n => ∀ m ∈ n, m.IsWritten := by
    refine .skip fun _ => .skip fun _ => .ite (.skip fun label => .pure ?_) (.pure ?_)
    · rintro _ ⟨⟩
      exact label.node_written
    · rintro _ ⟨⟩
  refine .bind (Q := fun read => (∀ m ∈ read.1, m.IsWritten) ∧ Node.AreWritten read.2.1 ∧
    read.2.2.IsWritten) (.within ?_) ?_
  · refine .either (.within hnamed) hnamed fun functionName hname => ?_
    refine .bind (functionTail_written hg _ _ _) fun ⟨params, body⟩ ⟨hparams, hbody⟩ => .pure ?_
    exact ⟨hname, hparams, hbody⟩
  · rintro ⟨functionName, params, body⟩ ⟨hname, hparams, hbody⟩
    refine .bind (spanFrom_returns lo) fun span hspan => .pure ⟨hspan, ?_⟩
    exact (Node.isWritten_function _ _ _ _ _).2 ⟨hname, hparams, hbody⟩

theorem arrowTail_written (hg : g.ReadsWritten) (lo : Nat) (isAsync : Bool) {params : List Node}
    (hparams : Node.AreWritten params) :
    Returns (arrowTail g lo isAsync params) Node.IsWritten := by
  refine .skip fun isBlock => .ite (.bind (Q := Block.IsWritten) (.inBody ?_) ?_) ?_
  · exact .bind (hg.block false) fun body hbody => .skip fun _ => .pure hbody.2
  · intro body hbody
    refine .skip fun _ => .pure ((Node.isWritten_function _ _ _ _ _).2 ⟨?_, hparams, hbody⟩)
    rintro _ ⟨⟩
  · refine .bind (.inBody hg.assignment) fun body hbody => .skip fun _ => .pure ?_
    exact (Node.isWritten_arrow _ _ _ _).2 ⟨hparams, hbody⟩

end Parse

end LoopGuard
