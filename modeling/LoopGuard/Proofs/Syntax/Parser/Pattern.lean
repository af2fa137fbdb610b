import LoopGuard.Proofs.Syntax.Parser.Returns
import LoopGuard.Proofs.Syntax.Written
import LoopGuard.Syntax.Parser.Pattern

/-!
# Patterns that are read

Turning what was read as an expression into a pattern keeps every place: what is turned down becomes
a leaf, of which no place is asked.

Results:
* `Parse.toPattern_written`, `Parse.toParameters_written`: patterns from expressions.
-/

namespace LoopGuard

namespace Parse

theorem rejectPattern_written (n : Node) : Returns (rejectPattern n) Node.IsWritten :=
  .skip fun _ => .pure (Node.isWritten_leaf _ _)

theorem toTargetElement_written {n : Node} (hn : n.IsWritten) :
    Returns (toTargetElement n) Node.IsWritten := by
  unfold toTargetElement
  refine .ite (.skip fun _ => .when (.pure hn)) ?_
  exact .ite (.pure hn) (rejectPattern_written n)

theorem toSimplePattern_written (role : PatternRole) {n : Node} (hn : n.IsWritten) :
    Returns (toSimplePattern role n) Node.IsWritten := by
  cases role with
  | target => exact .skip fun _ => .when (.pure hn)
  | targetElement => exact toTargetElement_written hn
  | binding => exact .ite (.pure hn) (rejectPattern_written n)
  | bindingElement => exact .ite (.pure hn) (rejectPattern_written n)

mutual

theorem toPattern_written (role : PatternRole) : (n : Node) → n.IsWritten →
    Returns (toPattern role n) Node.IsWritten
  | .group span form items, hn => by
    have hitems := (Node.isWritten_group _ _ _).1 hn
    cases form with
    | object =>
      refine .bind (toProperties_written role span.lo items hitems) fun read h => .pure ?_
      exact (Node.isWritten_group _ _ _).2 h
    | array =>
      refine .bind (toElements_written role span.lo _ items hitems) fun read h => .pure ?_
      exact (Node.isWritten_group _ _ _).2 h
    | _ => exact toSimplePattern_written role hn
  | .binary span form left right, hn => by
    have hpieces := (Node.isWritten_binary _ _ _ _).1 hn
    cases form with
    | assign op =>
      refine .ite ?_ (toSimplePattern_written role hn)
      refine .bind (toDefaulted_written role left hpieces.1) fun read h => .pure ?_
      exact (Node.isWritten_binary _ _ _ _).2 ⟨h, hpieces.2⟩
    | _ => exact toSimplePattern_written role hn
  | .leaf .., hn | .unary .., hn | .conditional .., hn | .call .., hn | .function .., hn
  | .arrow .., hn | .class .., hn => toSimplePattern_written role hn

theorem toDefaulted_written (role : PatternRole) : (n : Node) → n.IsWritten →
    Returns (toDefaulted role n) Node.IsWritten
  | .group span form items, hn => by
    have hitems := (Node.isWritten_group _ _ _).1 hn
    cases form with
    | object =>
      refine .bind (toProperties_written role span.lo items hitems) fun read h => .pure ?_
      exact (Node.isWritten_group _ _ _).2 h
    | array =>
      refine .bind (toElements_written role span.lo _ items hitems) fun read h => .pure ?_
      exact (Node.isWritten_group _ _ _).2 h
    | objectPattern => exact .pure hn
    | arrayPattern => exact .pure hn
    | _ => exact toSimplePattern_written role hn
  | .leaf span leaf, hn => by
    cases leaf with
    | invalid => exact .pure hn
    | _ => exact toSimplePattern_written role hn
  | .unary .., hn | .binary .., hn | .conditional .., hn | .call .., hn | .function .., hn
  | .arrow .., hn | .class .., hn => toSimplePattern_written role hn

theorem toProperties_written (role : PatternRole) (objectStart : Nat) : (items : List Node) →
    Node.AreWritten items → Returns (toProperties role objectStart items) Node.AreWritten
  | [], h => .pure h
  | .leaf span leaf :: rest, h => by
    obtain ⟨hn, hrest⟩ := List.forall_mem_cons.1 h
    exact .cons (.pure hn) (toProperties_written role objectStart rest hrest)
  | .binary span form key value :: rest, h => by
    obtain ⟨hn, hrest⟩ := List.forall_mem_cons.1 h
    obtain ⟨hkey, hvalue⟩ := (Node.isWritten_binary _ _ _ _).1 hn
    have hpattern := toPattern_written role.element value hvalue
    refine .either hpattern (.pure hvalue) fun value hvalue => ?_
    refine .bind (toProperties_written role objectStart rest hrest) fun rest hrest => .pure ?_
    exact List.forall_mem_cons.2 ⟨(Node.isWritten_binary _ _ _ _).2 ⟨hkey, hvalue⟩, hrest⟩
  | .unary span form arg :: rest, h => by
    obtain ⟨hn, hrest⟩ := List.forall_mem_cons.1 h
    have harg := (Node.isWritten_unary _ _ _).1 hn
    have hread := toProperties_written role objectStart rest hrest
    refine .either .any .any fun _ _ => ?_
    extract_lets behind
    have hbehind (arg : Node) (harg : arg.IsWritten) : Returns (behind arg) Node.AreWritten := by
      refine .when (.bind hread fun rest hrest => .pure ?_)
      exact List.forall_mem_cons.2 ⟨(Node.isWritten_unary _ _ _).2 harg, hrest⟩
    refine .ite (.bind (toPattern_written role.element arg harg) hbehind) (.ite ?_ ?_)
    · exact .bind (.pure harg) hbehind
    · exact .skip fun _ => .bind (.pure (Node.isWritten_leaf _ _)) hbehind
  | .group .. :: _, _ | .conditional .. :: _, _ | .call .. :: _, _ | .function .. :: _, _
  | .arrow .. :: _, _ | .class .. :: _, _ => .refuse _ _

theorem toElements_written (role : PatternRole) (arrayStart : Nat) (endInHole : Bool) :
    (items : List Node) → Node.AreWritten items →
    Returns (toElements role arrayStart endInHole items) Node.AreWritten
  | [], h => .pure h
  | .leaf span leaf :: rest, h => by
    obtain ⟨hn, hrest⟩ := List.forall_mem_cons.1 h
    have hread := toElements_written role arrayStart endInHole rest hrest
    cases leaf with
    | hole =>
      refine .bind hread fun read h => .pure ?_
      split
      · exact List.forall_mem_nil _
      · exact List.forall_mem_cons.2 ⟨hn, h⟩
    | _ => exact .cons (toSimplePattern_written role.element hn) hread
  | .unary span form arg :: rest, h => by
    obtain ⟨hn, hrest⟩ := List.forall_mem_cons.1 h
    have harg := (Node.isWritten_unary _ _ _).1 hn
    have hread := toElements_written role arrayStart endInHole rest hrest
    cases form with
    | spread =>
      refine .ite (.skip fun _ => hread) (.when (.skip fun _ => ?_))
      refine .bind (toPattern_written role.element arg harg) fun arg harg => .pure ?_
      exact List.forall_mem_singleton.2 ((Node.isWritten_unary _ _ _).2 harg)
    | _ => exact .cons (toSimplePattern_written role.element hn) hread
  | .binary span form left right :: rest, h => by
    obtain ⟨hn, hrest⟩ := List.forall_mem_cons.1 h
    have hread := toElements_written role arrayStart endInHole rest hrest
    exact .cons (toPattern_written role.element (.binary span form left right) hn) hread
  | .group span form items :: rest, h => by
    obtain ⟨hn, hrest⟩ := List.forall_mem_cons.1 h
    have hread := toElements_written role arrayStart endInHole rest hrest
    exact .cons (toPattern_written role.element (.group span form items) hn) hread
  | .conditional .. :: rest, h | .call .. :: rest, h | .function .. :: rest, h
  | .arrow .. :: rest, h | .class .. :: rest, h => by
    obtain ⟨hn, hrest⟩ := List.forall_mem_cons.1 h
    have hread := toElements_written role arrayStart endInHole rest hrest
    exact .cons (toSimplePattern_written role.element hn) hread

end

/-- What stands between parentheses, read as parameters. -/
theorem toParameters_written (trailingComma : Option Nat) {items : List Node}
    (h : Node.AreWritten items) : Returns (toParameters trailingComma items) Node.AreWritten := by
  refine .bind (Q := Node.AreWritten) ?_ fun params h => .skip fun _ => .pure h
  induction items with
  | nil => exact .pure h
  | cons n rest ih =>
    obtain ⟨hn, hrest⟩ := List.forall_mem_cons.1 h
    have hbehind (read : List Node) (hread : Node.AreWritten read) :
        Returns (do return read ++ (← toParameters.go trailingComma rest)) Node.AreWritten :=
      .bind (ih hrest) fun more hmore => .pure (List.forall_mem_append.2 ⟨hread, hmore⟩)
    have hplain {p : Node} (hp : p.IsWritten) :
        Returns (do
          let read ← pure [← toPattern .binding p]
          return read ++ (← toParameters.go trailingComma rest)) Node.AreWritten :=
      .bind (toPattern_written .binding p hp) fun p hp =>
        .bind (.pure (List.forall_mem_singleton.2 hp)) hbehind
    cases n with
    | unary span form arg =>
      cases form with
      | spread =>
        have harg := (Node.isWritten_unary _ _ _).1 hn
        have hread : Returns (do
            let read ← pure [Node.unary arg.span (.rest (dotsOf span)) (← toPattern .binding arg)]
            return read ++ (← toParameters.go trailingComma rest)) Node.AreWritten := by
          refine .bind (toPattern_written .binding arg harg) fun arg harg => ?_
          refine .bind (.pure ?_) hbehind
          exact List.forall_mem_singleton.2 ((Node.isWritten_unary _ _ _).2 harg)
        refine .ite (.skip fun _ => .bind (.pure (List.forall_mem_nil _)) hbehind) (.when ?_)
        cases trailingComma with
        | none => exact hread
        | some comma => exact .skip fun _ => hread
      | _ => exact hplain hn
    | _ => exact hplain hn

end Parse

theorem Label.node_written (l : Label) : l.node.IsWritten := Node.isWritten_leaf _ _

end LoopGuard
