import LoopGuard.Proofs.Syntax.Parts

/-!
# Written trees

Trees in which every statement and every call has a place in a source, as the trees of texts that
were read have. What is put into a tree afterwards has none, so in a written tree nothing is
mistaken for something inserted.

Results:
* `Node.isWritten_unary`, `Stmt.isWritten_loop` and their kin: a tree is written if its pieces are.
-/

namespace LoopGuard

/-- Whether a part has a place in a source. Of the nodes only calls are asked for theirs: an element
left out of an array is a node without a place in every tree. -/
def Part.IsWritten : Part → Prop
  | .stmt seat => seat.stmt.span ≠ .synthetic
  | .node (.call span _ _ _) => span ≠ .synthetic
  | .node _ => True

/-- Whether all of these parts have a place in a source. -/
def Written (parts : List Part) : Prop := ∀ x ∈ parts, x.IsWritten

@[simp] theorem written_nil : Written [] := by simp [Written]

@[simp] theorem written_cons (x : Part) (xs : List Part) :
    Written (x :: xs) ↔ x.IsWritten ∧ Written xs := List.forall_mem_cons

@[simp] theorem written_append (xs ys : List Part) :
    Written (xs ++ ys) ↔ Written xs ∧ Written ys := List.forall_mem_append

/-- Whether a node and everything inside it has a place in a source. -/
def Node.IsWritten (n : Node) : Prop := Written (.node n :: n.inside)

/-- Whether nodes and everything inside them have a place in a source. -/
abbrev Node.AreWritten (items : List Node) : Prop := ∀ n ∈ items, n.IsWritten

/-- Whether everything inside a block has a place in a source. -/
def Block.IsWritten (b : Block) : Prop := Written b.inside

/-- Whether a statement and everything inside it has a place in a source. -/
def Stmt.IsWritten (s : Stmt) : Prop := s.span ≠ .synthetic ∧ Written s.inside

/-- Whether statements and everything inside them have a place in a source. -/
abbrev Stmt.AreWritten (stmts : List Stmt) : Prop := ∀ s ∈ stmts, s.IsWritten

/-- Whether everything inside the head of a loop has a place in a source. -/
def LoopHead.IsWritten (h : LoopHead) : Prop := Written h.inside

/-- Whether everything inside a clause of a `switch` has a place in a source. -/
def Case.IsWritten : Case → Prop
  | .mk _ test body => (∀ n ∈ test, n.IsWritten) ∧ ∀ s ∈ body, s.IsWritten

/-- Whether everything inside a `catch` clause has a place in a source. -/
def Handler.IsWritten : Handler → Prop
  | .mk _ param body => (∀ n ∈ param, n.IsWritten) ∧ body.IsWritten

/-- Whether everything inside an element of a script or module has a place in a source. -/
def Item.IsWritten : Item → Prop
  | .stmt s => s.IsWritten
  | .exportDecl _ n | .exportValue _ n | .exportDefault _ n => n.IsWritten
  | .imports .. | .exportList .. | .exportAll .. => True

/-- Whether everything in a script or module has a place in a source. -/
def Program.IsWritten (p : Program) : Prop := ∀ i ∈ p.items, i.IsWritten

theorem written_insideAll (items : List Node) :
    Written (Node.insideAll items) ↔ ∀ n ∈ items, n.IsWritten := by
  induction items with
  | nil => simp
  | cons n rest ih => simp [Node.IsWritten, ih, and_assoc]

theorem written_node_inside? (n : Option Node) :
    Written (Node.inside? n) ↔ ∀ m ∈ n, m.IsWritten := by
  cases n <;> simp [Node.IsWritten]

theorem written_block_inside? (b : Option Block) :
    Written (Block.inside? b) ↔ ∀ c ∈ b, c.IsWritten := by
  cases b <;> simp [Block.IsWritten]

theorem written_insideStmts (slot : Slot) (before : Option Stmt) (stmts : List Stmt) :
    Written (Stmt.insideAll slot before stmts) ↔ ∀ s ∈ stmts, s.IsWritten := by
  induction stmts generalizing before with
  | nil => simp
  | cons s rest ih => simp [Stmt.IsWritten, Part.IsWritten, ih, and_assoc]

theorem written_stmt_inside? (slot : Slot) (s : Option Stmt) :
    Written (Stmt.inside? slot s) ↔ ∀ t ∈ s, t.IsWritten := by
  cases s <;> simp [Stmt.IsWritten, Part.IsWritten]

theorem written_insideCases (cases : List Case) :
    Written (Case.insideAll cases) ↔ ∀ c ∈ cases, c.IsWritten := by
  induction cases with
  | nil => simp
  | cons c rest ih =>
    obtain ⟨span, test, body⟩ := c
    simp [Case.IsWritten, written_node_inside?, written_insideStmts, ih, and_assoc]

theorem written_handler_inside? (h : Option Handler) :
    Written (Handler.inside? h) ↔ ∀ c ∈ h, c.IsWritten := by
  obtain - | ⟨span, param, body⟩ := h <;>
    simp [Handler.IsWritten, Block.IsWritten, written_node_inside?]

/-! ### Nodes -/

namespace Node

@[simp] theorem isWritten_leaf (span : Span) (l : Leaf) : (leaf span l).IsWritten := by
  simp [IsWritten, Part.IsWritten]

@[simp] theorem isWritten_unary (span : Span) (form : UnaryForm) (arg : Node) :
    (unary span form arg).IsWritten ↔ arg.IsWritten := by
  simp [IsWritten, Part.IsWritten]

@[simp] theorem isWritten_binary (span : Span) (form : BinaryForm) (left right : Node) :
    (binary span form left right).IsWritten ↔ left.IsWritten ∧ right.IsWritten := by
  simp [IsWritten, Part.IsWritten, and_assoc]

@[simp] theorem isWritten_conditional (span : Span) (test yes no : Node) :
    (conditional span test yes no).IsWritten ↔
      test.IsWritten ∧ yes.IsWritten ∧ no.IsWritten := by
  simp [IsWritten, Part.IsWritten, and_assoc]

@[simp] theorem isWritten_group (span : Span) (form : GroupForm) (items : List Node) :
    (group span form items).IsWritten ↔ ∀ n ∈ items, n.IsWritten := by
  rw [← written_insideAll]
  simp [IsWritten, Part.IsWritten]

@[simp] theorem isWritten_call (span : Span) (form : CallForm) (callee : Node)
    (args : List Node) :
    (call span form callee args).IsWritten ↔
      span ≠ .synthetic ∧ callee.IsWritten ∧ ∀ n ∈ args, n.IsWritten := by
  rw [← written_insideAll]
  simp [IsWritten, Part.IsWritten, and_assoc]

@[simp] theorem isWritten_function (span : Span) (form : FunctionForm) (name : Option Node)
    (params : List Node) (body : Block) :
    (function span form name params body).IsWritten ↔
      (∀ n ∈ name, n.IsWritten) ∧ (∀ n ∈ params, n.IsWritten) ∧ body.IsWritten := by
  rw [← written_insideAll, ← written_node_inside?]
  simp [IsWritten, Part.IsWritten, Block.IsWritten]

@[simp] theorem isWritten_arrow (span : Span) (isAsync : Bool) (params : List Node) (body : Node) :
    (arrow span isAsync params body).IsWritten ↔
      (∀ n ∈ params, n.IsWritten) ∧ body.IsWritten := by
  rw [← written_insideAll]
  simp [IsWritten, Part.IsWritten]

@[simp] theorem isWritten_class (span : Span) (name : Option Node) (members : List Node)
    (heritage : Option Node) :
    (Node.class span name members heritage).IsWritten ↔
      (∀ n ∈ name, n.IsWritten) ∧ (∀ n ∈ members, n.IsWritten) ∧ ∀ n ∈ heritage, n.IsWritten := by
  rw [← written_insideAll, ← written_node_inside?, ← written_node_inside?]
  simp [IsWritten, Part.IsWritten]

end Node

@[simp] theorem Block.isWritten_mk (span : Span) (stmts : List Stmt) :
    (Block.mk span stmts).IsWritten ↔ ∀ s ∈ stmts, s.IsWritten :=
  written_insideStmts .list none stmts

/-! ### Statements -/

namespace Stmt

@[simp] theorem isWritten_empty (span : Span) : (empty span).IsWritten ↔ span ≠ .synthetic := by
  simp [IsWritten, Stmt.span]

@[simp] theorem isWritten_debugger (span : Span) :
    (debugger span).IsWritten ↔ span ≠ .synthetic := by
  simp [IsWritten, Stmt.span]

@[simp] theorem isWritten_expression (span : Span) (n : Node) :
    (expression span n).IsWritten ↔ span ≠ .synthetic ∧ n.IsWritten := Iff.rfl

@[simp] theorem isWritten_declaration (n : Node) :
    (declaration n).IsWritten ↔ n.span ≠ .synthetic ∧ n.IsWritten := Iff.rfl

@[simp] theorem isWritten_block (b : Block) :
    (block b).IsWritten ↔ b.span ≠ .synthetic ∧ b.IsWritten := Iff.rfl

@[simp] theorem isWritten_return (span : Span) (value : Option Node) :
    (Stmt.return span value).IsWritten ↔ span ≠ .synthetic ∧ ∀ n ∈ value, n.IsWritten :=
  and_congr Iff.rfl (written_node_inside? value)

@[simp] theorem isWritten_throw (span : Span) (n : Node) :
    (throw span n).IsWritten ↔ span ≠ .synthetic ∧ n.IsWritten := Iff.rfl

@[simp] theorem isWritten_jump (span : Span) (kind : JumpKind) (target : Option Label) :
    (jump span kind target).IsWritten ↔ span ≠ .synthetic := by
  simp [IsWritten, Stmt.span]

@[simp] theorem isWritten_labeled (span : Span) (label : Label) (body : Stmt) :
    (labeled span label body).IsWritten ↔ span ≠ .synthetic ∧ body.IsWritten := by
  simp [IsWritten, Stmt.span, Part.IsWritten]

@[simp] theorem isWritten_withObject (span : Span) (object : Node) (body : Stmt) :
    (withObject span object body).IsWritten ↔
      span ≠ .synthetic ∧ object.IsWritten ∧ body.IsWritten := by
  simp [IsWritten, Stmt.span, Part.IsWritten, Node.IsWritten, and_assoc]

@[simp] theorem isWritten_branch (span : Span) (test : Node) (yes : Stmt) (no : Option Stmt) :
    (branch span test yes no).IsWritten ↔
      span ≠ .synthetic ∧ test.IsWritten ∧ yes.IsWritten ∧ ∀ s ∈ no, s.IsWritten := by
  rw [← written_stmt_inside? .arm]
  simp [IsWritten, Stmt.span, Part.IsWritten, Node.IsWritten, and_assoc]

@[simp] theorem isWritten_switch (span : Span) (subject : Node) (cases : List Case) :
    (switch span subject cases).IsWritten ↔
      span ≠ .synthetic ∧ subject.IsWritten ∧ ∀ c ∈ cases, c.IsWritten := by
  rw [← written_insideCases]
  simp [IsWritten, Stmt.span, Node.IsWritten, and_assoc]

@[simp] theorem isWritten_try (span : Span) (body : Block) (handler : Option Handler)
    (finalizer : Option Block) :
    (Stmt.try span body handler finalizer).IsWritten ↔
      span ≠ .synthetic ∧ body.IsWritten ∧ (∀ h ∈ handler, h.IsWritten) ∧
        ∀ b ∈ finalizer, b.IsWritten := by
  rw [← written_handler_inside?, ← written_block_inside?]
  simp [IsWritten, Stmt.span, Block.IsWritten]

@[simp] theorem isWritten_loop (span : Span) (head : LoopHead) (body : Stmt) :
    (loop span head body).IsWritten ↔ span ≠ .synthetic ∧ head.IsWritten ∧ body.IsWritten := by
  simp [IsWritten, Stmt.span, Part.IsWritten, LoopHead.IsWritten]

end Stmt

namespace LoopHead

@[simp] theorem isWritten_while (test : Node) : (LoopHead.while test).IsWritten ↔ test.IsWritten :=
  Iff.rfl

@[simp] theorem isWritten_doWhile (test : Node) : (doWhile test).IsWritten ↔ test.IsWritten :=
  Iff.rfl

@[simp] theorem isWritten_for (init test update : Option Node) :
    (LoopHead.for init test update).IsWritten ↔
      (∀ n ∈ init, n.IsWritten) ∧ (∀ n ∈ test, n.IsWritten) ∧ ∀ n ∈ update, n.IsWritten := by
  simp [IsWritten, written_node_inside?]

@[simp] theorem isWritten_forIn (left right : Node) :
    (forIn left right).IsWritten ↔ left.IsWritten ∧ right.IsWritten := by
  simp [IsWritten, Node.IsWritten, and_assoc]

@[simp] theorem isWritten_forOf (isAwait : Bool) (left right : Node) :
    (forOf isAwait left right).IsWritten ↔ left.IsWritten ∧ right.IsWritten := by
  simp [IsWritten, Node.IsWritten, and_assoc]

end LoopHead

end LoopGuard
