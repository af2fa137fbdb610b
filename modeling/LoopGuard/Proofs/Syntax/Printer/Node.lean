import LoopGuard.Proofs.Loop.Made
import LoopGuard.Proofs.Syntax.Printer.Layout
import LoopGuard.Syntax.Printer.Module

/-!
# Calls in printed programs

The calls without a place in a tree are written in the order of the text, whatever tree it is.

Results:
* `Print.prints_node`, `Print.prints_statement`: nodes and statements.
* `Program.prints_calls`: scripts and modules.
-/

namespace LoopGuard

open Emit Layout

namespace Print

/-! ## Groups -/

theorem childrenPrint_patternProperties {items : List Node} {children : List WrittenChild}
    {xs : List Stmt} (hlength : items.length = children.length) (h : ChildrenPrint children xs) :
    ChildrenPrint (List.zipWith patternProperty items children) xs := by
  unfold ChildrenPrint at *
  induction items generalizing children xs with
  | nil =>
    obtain rfl := List.eq_nil_of_length_eq_zero hlength.symm
    exact h
  | cons n rest ih =>
    cases children with
    | nil => cases hlength
    | cons c cs =>
      cases h with
      | cons hc hcs =>
        refine .cons ?_ (ih (Nat.succ.inj hlength) hcs)
        unfold patternProperty
        split
        · exact hc
        · exact hc.close

theorem length_nodes (items : List Node) : (nodes items).length = items.length := by
  induction items with
  | nil => rfl
  | cons n rest ih => rw [nodes, List.length_cons, ih, List.length_cons]

theorem childrenPrint_groupChildren {form : GroupForm} {items : List Node} {xs : List Stmt}
    (h : ChildrenPrint (nodes items) xs) :
    ChildrenPrint (groupChildren form items (nodes items)) xs := by
  unfold groupChildren
  split
  · exact childrenPrint_patternProperties (length_nodes items).symm h
  · exact h

instance quiet_finish (span : Span) : Quiet (finish span) := by
  unfold finish
  infer_instance

instance quiet_label (l : Label) : Quiet (label l) := by
  unfold label
  infer_instance

/-- A statement that stands for itself. -/
theorem prints_self {s : Stmt} {xs : List Stmt} (h : Prints (statement s) xs) :
    Prints (statement s) [s] := by
  intro w
  obtain ⟨more, hmore⟩ := (h w).goes_on
  exact ⟨"", more, w, String.append_empty.symm, hmore, "", by rw [hmore, String.append_empty]⟩

/-! ## Nodes and statements -/

mutual

theorem prints_node : (n : Node) → Prints (node n) (Part.calls n.inText)
  | .leaf span l => (quiet_leaf span l).prints
  | .unary _ _ arg => prints_unary (prints_node arg)
  | .binary _ _ left right => by
    rw [Node.inText, Part.calls_append]
    exact prints_binary (prints_node left) (prints_node right)
  | .conditional _ test yes no => by
    rw [Node.inText, Part.calls_append, Part.calls_append, List.append_assoc]
    exact prints_conditional (prints_node test) (prints_node yes) (prints_node no)
  | .group _ _ items => prints_group (childrenPrint_groupChildren (prints_nodes items))
  | .call _ _ callee args => by
    rw [Node.inText, Part.calls_append, Part.calls_ite]
    exact prints_call (prints_node callee) (prints_nodes args)
  | .function _ _ name params body => by
    rw [Node.inText, Part.calls_append, Part.calls_append, Part.calls_ite, Part.calls_ite,
      List.append_assoc]
    exact prints_function (prints_node? name) (prints_nodes params) (prints_block body)
  | .arrow _ _ params body => by
    rw [Node.inText, Part.calls_append]
    exact prints_arrow (prints_nodes params) (prints_node body)
  | .class _ name members heritage => by
    rw [Node.inText, Part.calls_append, Part.calls_append]
    exact prints_classOf (prints_node? name) (prints_node? heritage) (prints_nodes members)

theorem prints_nodes : (items : List Node) →
    ChildrenPrint (nodes items) (Part.calls (Node.allInText items))
  | [] => .nil
  | n :: rest => by
    rw [Node.allInText, Part.calls_append]
    exact .cons (prints_node n) (prints_nodes rest)

theorem prints_node? : (n : Option Node) → ChildPrints? (node? n) (Part.calls (Node.inText? n))
  | none => .nothing
  | some n => prints_node n

theorem prints_block : (b : Block) → (isMarked : Bool) →
    Prints (block b isMarked) (Part.calls b.inText)
  | .mk _ stmts, _ => prints_braces (prints_statements .list none stmts)

theorem prints_statements (slot : Slot) (before : Option Stmt) : (stmts : List Stmt) →
    AllPrint (statements stmts) (Part.calls (Stmt.allInText slot before stmts))
  | [] => .nil
  | s :: rest => by
    rw [Stmt.allInText, Part.calls_append]
    exact .cons (prints_statement slot before s) (prints_statements slot (some s) rest)

theorem prints_statement (slot : Slot) (before : Option Stmt) : (s : Stmt) →
    Prints (statement s) (Part.calls (.stmt ⟨slot, before, s⟩ :: s.inText))
  | .block b => prints_block b true
  | .empty span => .skip (.skip (quiet_finish span).prints)
  | .debugger span => .skip (.skip (.skip (.skip (.skip (quiet_finish span).prints))))
  | .jump span kind target => by
    refine .skip (.skip ?_)
    cases target with
    | none => exact .skip (quiet_finish span).prints
    | some l => exact .skip (.skip (.skip (quiet_finish span).prints))
  | .expression .synthetic n =>
    prints_self (.skip ((prints_node n).seq (.skip (.skip (quiet_finish _).prints))))
  | .expression (.source lo hi) n => .skip (prints_node n).close
  | .declaration n => (prints_node n).close
  | .return span value =>
    .skip (.skip (.skip (.skipIf (WrittenChild.prints_whole? (prints_node? value)).close)))
  | .throw span n => .skip (.skip (.skip (prints_node n).close))
  | .labeled span l body => .skip (.skip (.skip (prints_statement .labelBody none body).close))
  | .withObject span object body => by
    rw [Part.calls_stmt rfl, Stmt.inText, Part.calls_append, Part.calls_node]
    have hbody := prints_statement .withBody none body
    exact .skip (.skip (.skip ((prints_node object).seq (.skip (.skip hbody.close)))))
  | .branch span test yes none => by
    rw [Part.calls_stmt rfl, Stmt.inText, Part.calls_append, Part.calls_append, Part.calls_node,
      List.append_assoc]
    have hyes := prints_statement .arm none yes
    have hfinish := (quiet_finish span).prints
    exact .skip (.skip (.skip ((prints_node test).seq (.skip (.skip (hyes.seq hfinish))))))
  | .branch span test yes (some no) => by
    rw [Part.calls_stmt rfl, Stmt.inText, Part.calls_append, Part.calls_append, Part.calls_node,
      List.append_assoc]
    have hyes := prints_statement .arm none yes
    have hno := prints_statement .arm none no
    refine .skip (.skip (.skip ((prints_node test).seq (.skip (.skip (hyes.seq ?_))))))
    exact .skipIf (.skip hno.close)
  | .switch span subject cases => by
    rw [Part.calls_stmt rfl, Stmt.inText, Part.calls_append, Part.calls_node]
    have hcases := prints_indentedLines (prints_clauses cases)
    exact .skip (.skip (.skip ((prints_node subject).seq (.skip (.skip hcases.close)))))
  | .try span body handler none => by
    rw [Part.calls_stmt rfl, Stmt.inText, Part.calls_append, Part.calls_append, List.append_assoc]
    have hfinish := (quiet_finish span).prints
    exact .skip (.skip (.skip ((prints_block body true).seq
      ((prints_handler? handler).seq hfinish))))
  | .try span body handler (some finalizer) => by
    rw [Part.calls_stmt rfl, Stmt.inText, Part.calls_append, Part.calls_append, List.append_assoc]
    have hfinalizer := prints_block finalizer true
    exact .skip (.skip (.skip ((prints_block body true).seq
      ((prints_handler? handler).seq (.skip hfinalizer.close)))))
  | .loop span head body => by
    rw [Part.calls_stmt rfl, Stmt.inText]
    exact .skip (.skip (prints_loop span head (prints_statement .loopBody none body)).close)

theorem prints_loop (span : Span) : (head : LoopHead) → {body : Emit Unit} → {parts : List Part} →
    Prints body (Part.calls parts) → Prints (loop span head body) (Part.calls (head.around parts))
  | .while test, _, _, hb => by
    rw [LoopHead.around, Part.calls_append, Part.calls_node]
    exact .skip ((prints_node test).seq (.skip (.skip hb)))
  | .doWhile test, _, _, hb => by
    rw [LoopHead.around, Part.calls_append, Part.calls_node]
    exact .skip (hb.seq (.skip (prints_node test).close))
  | .for init test update, _, _, hb => by
    simp only [LoopHead.around, Part.calls_append, List.append_assoc]
    have hi := WrittenChild.prints_whole? (prints_node? init)
    have ht := WrittenChild.prints_whole? (prints_node? test)
    have hu := WrittenChild.prints_whole? (prints_node? update)
    exact .skip (hi.seq (.skip (.skipIf (ht.seq (.skip (.skipIf (hu.seq (.skip hb))))))))
  | .forIn left right, _, _, hb | .forOf _ left right, _, _, hb => by
    simp only [LoopHead.around, Part.calls_append, Part.calls_node, List.append_assoc]
    have hright := prints_node right
    exact .skip ((prints_node left).seq (.skip (.skip (hright.seq (.skip (.skip hb))))))

theorem prints_clauses : (cases : List Case) →
    AllPrint (clauses cases) (Part.calls (Case.allInText cases))
  | [] => .nil
  | .mk span none body :: rest => by
    rw [Case.allInText, Part.calls_append]
    have hbody := (prints_eachOnLine (prints_statements .clause none body)).indented
    exact .cons (.skip (.skip (.skip (.skip hbody)))) (prints_clauses rest)
  | .mk span (some test) body :: rest => by
    rw [Case.allInText, Part.calls_append, Part.calls_append]
    have hbody := (prints_eachOnLine (prints_statements .clause none body)).indented
    refine .cons (.skip (.skip ?_)) (prints_clauses rest)
    exact .skip ((prints_node test).seq (.skip (.skip hbody)))

theorem prints_handler? : (h : Option Handler) →
    Prints (handler? h) (Part.calls (Handler.inText? h))
  | none => .nothing
  | some (.mk span none body) =>
    .skip (.skip (.skip (.skip (.skip (prints_block body true)))))
  | some (.mk span (some param) body) => by
    rw [Handler.inText?, Part.calls_append]
    have hbody := prints_block body true
    refine .skip (.skip (.skip (.skip ?_)))
    exact .skip ((prints_node param).seq (.skip (.skip (.skip hbody))))

end

/-! ## Scripts and modules -/

instance quiet_external (n : ExternalName) : Quiet (external n) := by
  cases n <;> unfold external <;> infer_instance

instance quiet_moduleName (m : ModuleName) : Quiet (moduleName m) := by
  unfold moduleName
  infer_instance

instance quiet_importSpecifier (s : ImportSpecifier) : Quiet (importSpecifier s).bare := by
  cases s with
  | named span imported binding => cases imported <;> unfold importSpecifier <;> infer_instance
  | _ =>
    unfold importSpecifier
    infer_instance

instance quiet_exportSpecifier (s : ExportSpecifier) : Quiet (exportSpecifier s).bare := by
  cases s with
  | named span name exported => cases exported <;> unfold exportSpecifier <;> infer_instance
  | _ =>
    unfold exportSpecifier
    infer_instance

/-- Writers of names, which hold no statements. -/
theorem allPrint_names {f : α → Emit Unit} (hf : ∀ a, Quiet (f a)) (names : List α) :
    AllPrint (names.map f) [] := by
  induction names with
  | nil => exact .nil
  | cons n rest ih => exact .cons (hf n).prints ih

theorem quiet_namesInBraces {f : α → WrittenChild} (hf : ∀ a, Quiet (f a).bare) (names : List α)
    (endsInComma : Bool) : Quiet (namesInBraces (names.map f) endsInComma) := by
  have hnames : Quiet (separated (bareElements (names.map f))) := by
    unfold bareElements
    rw [List.map_map]
    exact ⟨prints_separated (allPrint_names (fun a => ⟨prints_element (hf a).prints⟩) names)⟩
  unfold namesInBraces
  infer_instance

instance quiet_imports (span : Span) (phase : ImportPhase) (specifiers : List ImportSpecifier)
    (source : ModuleName) (endsInComma : Bool) :
    Quiet (item (.imports span phase specifiers source endsInComma)) := by
  refine ⟨.skip (.skip (.skip ?_))⟩
  generalize specifiers.partition isNamedImport = parts
  obtain ⟨named, others⟩ := parts
  have hnamed := quiet_namesInBraces quiet_importSpecifier named endsInComma
  have hothers : Quiet (separated (others.map fun s => (importSpecifier s).bare)) :=
    ⟨prints_separated (allPrint_names quiet_importSpecifier _)⟩
  dsimp only
  cases phase.word? with
  | none => exact .skip (.branch (.skipIf (.skip (.skipIf Quiet.prints))) (.skipIf Quiet.prints))
  | some word =>
    exact .skip (.skip (.branch (.skipIf (.skip (.skipIf Quiet.prints))) (.skipIf Quiet.prints)))

instance quiet_exportList (span : Span) (specifiers : List ExportSpecifier)
    (source : Option ModuleName) (endsInComma : Bool) :
    Quiet (item (.exportList span specifiers source endsInComma)) := by
  have hnames := quiet_namesInBraces quiet_exportSpecifier specifiers endsInComma
  refine ⟨.skip (.skip (.skip ?_))⟩
  cases source <;> dsimp only <;> split <;> exact Quiet.prints

instance quiet_exportAll (span : Span) (source : ModuleName) :
    Quiet (item (.exportAll span source)) :=
  ⟨.skip (.skip (.skip Quiet.prints))⟩

theorem prints_itemsOf : (before : Option Stmt) → (items : List Item) →
    Prints (itemsOf items) (Part.calls (Item.allInText before items))
  | _, [] => .nothing
  | before, .stmt s :: rest => by
    rw [Item.allInText, Part.calls_append]
    exact (prints_statement .list before s).seq (prints_itemsOf (some s) rest)
  | _, .exportDecl span n :: rest => by
    rw [Item.allInText, Part.calls_append, Part.calls_node]
    have hitem : Prints (item (.exportDecl span n)) (Part.calls n.inText) :=
      .skip (.skip (.skip (prints_node n).close))
    exact hitem.seq (prints_itemsOf none rest)
  | _, .exportValue span n :: rest | _, .exportDefault span n :: rest => by
    rw [Item.allInText, Part.calls_append, Part.calls_node]
    exact .seq (.skip (.skip (.skip (prints_node n).close))) (prints_itemsOf none rest)
  | _, .imports .. :: rest | _, .exportList .. :: rest | _, .exportAll .. :: rest =>
    .skip (prints_itemsOf none rest)

end Print

/-- A script or module is written with its calls in the order of the text. -/
theorem Program.prints_calls (p : Program) : Prints (Print.program p) (Part.calls p.inText) := by
  have hitems := Print.prints_itemsOf none p.items
  refine .skip (.skipIf ?_)
  cases p.shebang with
  | none => exact hitems.close
  | some text => exact .skip (.skip hitems.close)

end LoopGuard
