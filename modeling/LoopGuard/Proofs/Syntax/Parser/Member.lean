import LoopGuard.Proofs.Syntax.Parser.Function
import LoopGuard.Syntax.Parser.Member

/-!
# Members that are read

The properties of object literals and the members of classes.

Results:
* `Parse.object_written`: object literals.
* `Parse.class_written`: classes, which also keep the place of their `class`.
-/

namespace LoopGuard

namespace Parse

variable {g : Grammar}

/-! ## Object literals -/

theorem objectMethod_written (hg : g.ReadsWritten) (lo : Nat) (form : FunctionForm) {key : Node}
    (hkey : key.IsWritten) (isAsync isGenerator : Bool) (check : List Node → Parse Unit) :
    Returns (objectMethod g lo form key isAsync isGenerator check) Node.IsWritten := by
  refine .bind (methodTail_written hg _ _ _ _) ?_
  rintro ⟨params, body⟩ ⟨hparams, hbody⟩
  refine .skip fun _ => .pure ((Node.isWritten_function _ _ _ _ _).2 ⟨?_, hparams, hbody⟩)
  rintro _ ⟨⟩
  exact hkey

theorem objectProperty_written (hg : g.ReadsWritten) :
    Returns (objectProperty g) Node.IsWritten := by
  refine .skip fun lo => .skip fun _ => .ite ?_ (.skip fun _ => .ite ?_ ?_)
  · exact .bind (.allowingIn hg.assignment) fun arg harg => .unary harg
  · exact .bind (propertyKey_written hg) fun key hkey => objectMethod_written hg _ _ hkey _ _ _
  · refine .bind (propertyKey_written hg) fun key hkey => .skip fun _ => .ite ?_ ?_
    · exact .bind (.allowingIn hg.assignment) fun value hvalue => .binary hkey hvalue
    · refine .skip fun _ => .ite (objectMethod_written hg _ _ hkey _ _ _) ?_
      split
      · refine .skip fun _ => ?_
        extract_lets behind
        have hbehind : Returns (behind ()) Node.IsWritten := by
          refine .skip fun _ => .ite (.skip fun _ => .ite ?_ (.pure hkey)) ?_
          · exact .bind (.allowingIn hg.assignment) fun value hvalue => .binary hkey hvalue
          split
          · refine .bind (propertyKey_written hg) fun key hkey => ?_
            exact objectMethod_written hg _ _ hkey _ _ _
          · refine .bind (propertyKey_written hg) fun key hkey => ?_
            exact objectMethod_written hg _ _ hkey _ _ _
          · refine .skip fun _ => .bind (propertyKey_written hg) fun key hkey => ?_
            exact objectMethod_written hg _ _ hkey _ _ _
          · exact .unexpected _
        exact .ite (.skip fun _ => .skip fun _ => hbehind) hbehind
      · exact .unexpected _

theorem object_written (hg : g.ReadsWritten) : Returns (object g) Node.IsWritten := by
  refine .skip fun lo => .bind (braced_written (objectProperty_written hg)) ?_
  rintro ⟨items, comma⟩ hitems
  have hgroup : Returns (do return .group (← spanFrom lo) .object items) Node.IsWritten :=
    .skip fun _ => .pure ((Node.isWritten_group _ _ _).2 hitems)
  cases comma with
  | none => exact hgroup
  | some at_ => exact .skip fun _ => hgroup

/-! ## Classes -/

theorem privateName_written : Returns privateName Node.IsWritten := by
  refine .skip fun lo => .skip fun _ => .skip fun _ => .skip fun _ => ?_
  exact .when (.skip fun label => .leaf)

theorem memberKey_written (hg : g.ReadsWritten) : Returns (memberKey g) Node.IsWritten := by
  refine .skip fun _ => .ite (.bind privateName_written fun key hkey => ?_) (propertyKey_written hg)
  extract_lets behind
  have hbehind : Returns (behind ()) Node.IsWritten := .pure hkey
  split
  · exact .skip fun _ => hbehind
  · exact hbehind

theorem classField_written (hg : g.ReadsWritten) (lo : Nat) (isStatic : Bool) {key : Node}
    (hkey : key.IsWritten) : Returns (classField g lo isStatic key) Node.IsWritten := by
  refine .when (.within (.skip fun _ => .either hg.assignment.some .none fun value hvalue => ?_))
  refine .skip fun _ => ?_
  extract_lets field
  have hfield : Returns (field ()) Node.IsWritten := by
    cases value with
    | none => exact .unary hkey
    | some v => exact .binary hkey (hvalue v rfl)
  exact .ite (.skip fun _ => .skip fun _ => hfield) hfield

theorem classMethod_written (hg : g.ReadsWritten) (lo : Nat) (isStatic : Bool) (kind : MethodKind)
    {key : Node} (hkey : key.IsWritten) (isAsync isGenerator : Bool)
    (check : List Node → Parse Unit) :
    Returns (classMethod g lo isStatic kind key isAsync isGenerator check) Node.IsWritten := by
  refine .bind (methodTail_written hg _ _ _ _) ?_
  rintro ⟨params, body⟩ ⟨hparams, hbody⟩
  refine .skip fun _ => .pure ((Node.isWritten_function _ _ _ _ _).2 ⟨?_, hparams, hbody⟩)
  rintro _ ⟨⟩
  exact hkey

theorem classConstructor_written (hg : g.ReadsWritten) (lo : Nat) {key : Node}
    (hkey : key.IsWritten) : Returns (classConstructor g lo key) Node.IsWritten := by
  refine .skip fun _ => .bind (parameters_written hg false) fun params hparams => .skip fun _ => ?_
  refine .bind (Q := Block.IsWritten) (.inBody ?_) ?_
  · exact .bind (.allowingIn (hg.block true)) fun body hbody => .skip fun _ => .pure hbody.2
  · intro body hbody
    refine .skip fun _ => .pure ((Node.isWritten_function _ _ _ _ _).2 ⟨?_, hparams, hbody⟩)
    rintro _ ⟨⟩
    exact hkey

theorem classMemberTail_written (hg : g.ReadsWritten) (lo : Nat) (isStatic : Bool) :
    Returns (classMemberTail g lo isStatic) Node.IsWritten := by
  refine .skip fun _ => .ite ?_ (.skip fun _ => .ite ?_ ?_)
  · refine .bind (.within (hg.block false)) fun body hbody => .skip fun _ => .pure ?_
    refine (Node.isWritten_function _ _ _ _ _).2 ⟨?_, List.forall_mem_nil _, hbody.2⟩
    rintro _ ⟨⟩
  · refine .bind (memberKey_written hg) fun key hkey => .when ?_
    exact classMethod_written hg _ _ _ hkey _ _ _
  · refine .bind (memberKey_written hg) fun key hkey => .skip fun _ => .ite ?_ ?_
    · refine .ite ?_ (classMethod_written hg _ _ _ hkey _ _ _)
      exact .bind (classConstructor_written hg lo hkey) fun read hread => .when (.pure hread)
    · refine .skip fun _ => .skip fun _ => .skip fun _ => .skip fun _ => ?_
      refine .ite (classField_written hg lo isStatic hkey) (.skip fun _ => .ite ?_ (.ite ?_ ?_))
      · refine .skip fun _ => .bind (memberKey_written hg) fun key hkey => .when ?_
        exact classMethod_written hg _ _ _ hkey _ _ _
      · refine .bind (memberKey_written hg) fun key hkey => .when ?_
        exact .ite (classMethod_written hg _ _ _ hkey _ _ _)
          (classMethod_written hg _ _ _ hkey _ _ _)
      · exact .unexpected _

theorem classMember_written (hg : g.ReadsWritten) : Returns (classMember g) Node.IsWritten := by
  refine .skip fun lo => .skip fun _ => .ite ?_ (classMemberTail_written hg lo false)
  have hkey (span : Span) : (Node.leaf span (.name "static")).IsWritten := Node.isWritten_leaf _ _
  refine .skip fun span => .skip fun _ => .ite (classMethod_written hg _ _ _ (hkey span) _ _ _) ?_
  refine .skip fun _ => .ite (classField_written hg lo false (hkey span)) ?_
  exact classMemberTail_written hg lo true

theorem classBody_written (hg : g.ReadsWritten) : Returns (classBody g) Node.AreWritten := by
  refine .bind (Q := fun read => Node.AreWritten read.1) ?_ ?_
  · refine .loop (List.forall_mem_nil _) fun ⟨members, hasConstructor⟩ hmembers => ?_
    refine .skip fun _ => .skip fun _ => .ite (.pure hmembers) (.skip fun _ => .ite ?_ ?_)
    · exact .skip fun span => .pure (List.forall_mem_cons.2 ⟨Node.isWritten_leaf _ _, hmembers⟩)
    · refine .bind (.within (classMember_written hg)) fun m hm => ?_
      have hmore : Node.AreWritten (m :: members) := List.forall_mem_cons.2 ⟨hm, hmembers⟩
      split
      · exact .when (.pure hmore)
      · exact .pure hmore
  · exact fun ⟨members, _⟩ hmembers => .pure fun n hn => hmembers n (List.mem_reverse.1 hn)

/-- A class can stand as a statement. -/
theorem class_written (hg : g.ReadsWritten) (lo : Nat) (needsName : Bool) :
    Returns («class» g lo needsName) fun n => (Stmt.declaration n).IsWritten := by
  refine .within (.skip fun _ => .skip fun _ => .skip fun _ => ?_)
  refine .either .any .any fun className _ => .skip fun _ => ?_
  refine .either hg.leftHandSide.some .none fun heritage hheritage => .skip fun _ => ?_
  extract_lets behind
  have hbehind : Returns (behind ()) fun n => (Stmt.declaration n).IsWritten := by
    refine .skip fun _ => .bind (classBody_written hg) fun members hmembers => .skip fun _ => ?_
    extract_lets closed
    have hclosed : Returns (closed ()) fun n => (Stmt.declaration n).IsWritten := by
      refine .bind (spanFrom_returns lo) fun span hspan => .pure ⟨hspan, ?_⟩
      refine (Node.isWritten_class _ _ _ _).2 ⟨?_, hmembers, hheritage⟩
      intro n hn
      obtain ⟨label, -, rfl⟩ := Option.map_eq_some_iff.1 hn
      exact label.node_written
    exact .ite (.skip fun _ => .skip fun _ => hclosed) (.skip fun _ => hclosed)
  exact .ite (.skip fun _ => .skip fun _ => .skip fun _ => hbehind) hbehind

end Parse

end LoopGuard
