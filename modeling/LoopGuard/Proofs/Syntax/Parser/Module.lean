import LoopGuard.Proofs.Syntax.Parser.Statement
import LoopGuard.Syntax.Parse

/-!
# Scripts and modules that are read

The constructs of a grammar whose levels lie within each other are written, by induction on the
number of levels. A text is read by such a grammar.

Results:
* `Parse.program_written`: scripts and modules.
* `Grammar.ofDepth_readsWritten`: grammars of any depth.
* `ParsedText.isWritten_ofSource`: the tree of a text that has been read is written.
-/

namespace LoopGuard

namespace Parse

variable {g : Grammar}

/-! ## Elements of scripts and modules -/

theorem importItem_written (hg : g.ReadsWritten) : Returns (importItem g) Item.IsWritten := by
  refine .skip fun lo => .skip fun next => .ite ?_ (.skip fun _ => .skip fun _ => .skip fun _ => ?_)
  · refine .bind hg.expression fun n hn => .skip fun _ => ?_
    exact .bind (spanFrom_returns lo) fun span hspan => .pure ⟨hspan, hn⟩
  · refine .skip fun token => ?_
    split
    · exact .skip fun _ => .skip fun _ => .skip fun _ => .pure trivial
    · refine .skip fun ⟨phase, first⟩ => .skip fun rest => .skip fun source => .skip fun span => ?_
      exact .skip fun _ => .pure trivial

theorem exportList_written (lo : Nat) : Returns (exportList lo) Item.IsWritten := by
  refine .skip fun _ => .skip fun specifiers => .skip fun _ => .skip fun _ => ?_
  refine .either .any .any fun source _ => .when₂ ?_
  exact .skip fun span => .skip fun _ => .pure trivial

theorem exportStar_written (lo : Nat) : Returns (exportStar lo) Item.IsWritten := by
  refine .skip fun starStart => .skip fun _ => .ite ?_ ?_
  · exact .skip fun _ => .skip fun _ => .skip fun _ => .skip fun _ => .pure trivial
  · exact .skip fun _ => .pure trivial

theorem exportDefault_written (hg : g.ReadsWritten) (lo : Nat) :
    Returns (exportDefault g lo) Item.IsWritten := by
  have hfunction (lo : Nat) (isAsync : Bool) := function_written hg lo isAsync false false
  refine .skip fun declStart => .skip fun _ => .ite ?_ (.skip fun _ => ?_)
  · exact .bind (class_written hg _ _) fun n hn => .skip fun _ => .pure hn.2
  refine .ite ?_ (.skip fun _ => .ite ?_ ?_)
  · exact .skip fun _ => .bind (hfunction _ _) fun n hn => .skip fun _ => .pure hn.2
  · exact .bind (hfunction _ _) fun n hn => .skip fun _ => .pure hn.2
  · exact .bind (.allowingIn hg.assignment) fun n hn => .skip fun _ => .skip fun _ => .pure hn

theorem exportItem_written (hg : g.ReadsWritten) : Returns (exportItem g) Item.IsWritten := by
  refine .skip fun _ => .skip fun lo => .skip fun _ => .skip fun _ => .skip fun _ => .ite ?_ ?_
  · exact exportStar_written lo
  refine .skip fun _ => .ite (exportDefault_written hg lo) ?_
  refine .skip fun declStart => .skip fun isLet => ?_
  refine .skip fun _ => .skip fun _ => .skip fun _ => .skip fun _ => ?_
  extract_lets behind
  have hbehind {read : Parse Node} (h : Returns read fun n => (Stmt.declaration n).IsWritten) :
      Returns (behind (some read)) Item.IsWritten :=
    .bind h fun decl hdecl => .skip fun _ => .pure hdecl.2
  have hfunction (isAsync : Bool) := function_written hg declStart isAsync true false
  refine .ite (hbehind (class_written hg _ _)) (.ite ?_ ?_)
  · exact .skip fun _ => hbehind (hfunction true)
  refine .ite (hbehind (hfunction false)) (.ite ?_ ?_)
  · exact hbehind (variableDeclaration_written hg false)
  · exact exportList_written lo

theorem item_written (hg : g.ReadsWritten) : Returns (item g) Item.IsWritten := by
  refine .skip fun _ => .ite (importItem_written hg) (.skip fun _ => .ite ?_ ?_)
  · exact exportItem_written hg
  · exact .map ((hg.statement true true).mono fun _ h => h)

theorem items_written (hg : g.ReadsWritten) :
    Returns (items g) fun read => ∀ i ∈ read, i.IsWritten := by
  refine .skip fun outer => .bind (Q := fun read => ∀ i ∈ read.1, i.IsWritten) ?_ ?_
  · refine .loop (List.forall_mem_nil _) fun ⟨items, isFirst⟩ hitems => .skip fun _ => ?_
    refine .ite (.pure hitems) (.bind (item_written hg) fun i hi => ?_)
    have hmore : ∀ j ∈ i :: items, j.IsWritten := List.forall_mem_cons.2 ⟨hi, hitems⟩
    refine .ite ?_ (.pure hmore)
    cases i with
    | stmt s => exact .when₂ (.pure hmore)
    | _ => exact .pure hmore
  · exact fun ⟨items, _⟩ hitems => .skip fun _ => .pure fun i hi => hitems i (List.mem_reverse.1 hi)

theorem program_written (hg : g.ReadsWritten) : Returns (program g) Program.IsWritten := by
  refine .skip fun lo => .skip fun token => ?_
  extract_lets behind
  have hbehind (shebang : Option String) : Returns (behind shebang) Program.IsWritten := by
    refine .bind (items_written hg) fun read hread => .skip fun _ => .when ?_
    exact .skip fun _ => .pure hread
  split
  · exact .skip fun _ => .skip fun _ => hbehind _
  · exact .skip fun _ => hbehind _

end Parse

/-! ## The whole grammar -/

open Parse

theorem Grammar.exhausted_readsWritten : Grammar.exhausted.ReadsWritten where
  assignment := .throw _
  expression := .throw _
  unary := .throw _
  leftHandSide := .throw _
  operators _ _ _ := .throw _
  member _ := .throw _
  accesses _ _ _ _ := .throw _
  binding _ := .throw _
  statement _ _ := .throw _
  block _ := .throw _

/-- What is read is written if what lies inside it is. -/
theorem Grammar.level_readsWritten {inner : Unit → Grammar} (h : (inner ()).ReadsWritten) :
    (Grammar.level inner).ReadsWritten where
  assignment := assignment_written h
  expression := expression_written h
  unary := unary_written h
  leftHandSide := leftHandSide_written h
  operators _ least hleft := operators_written h hleft least
  member bare := member_written h bare
  accesses lo _ noCall hobject := accesses_written h lo hobject noCall
  binding letIsReserved := binding_written h letIsReserved
  statement declarations top := statement_written h declarations top
  block directives := block_written h directives

theorem Grammar.ofDepth_readsWritten (depth : Nat) :
    (Grammar.ofDepth Grammar.level depth).ReadsWritten := by
  induction depth with
  | zero => exact exhausted_readsWritten
  | succ depth ih => exact level_readsWritten ih

/-- The tree of a text that has been read is written. -/
theorem ParsedText.isWritten_ofSource {source : Array Char} {p : ParsedText}
    (h : ParsedText.ofSource source = .ok p) : p.program.IsWritten := by
  unfold ParsedText.ofSource at h
  dsimp only at h
  split at h
  · cases h
  case h_2 program r hr =>
    split at h
    · cases h
    · cases h
      refine program_written (Grammar.level_readsWritten ?_) _ _ _ hr
      exact Grammar.ofDepth_readsWritten _

/-! ## Texts that pass a test -/

/-- Whether a text can be read and what is read passes a test. -/
def ParsedText.passes (source : Array Char) (test : ParsedText → Bool) : Bool :=
  match ofSource source with
  | .ok p => test p
  | .error _ => false

theorem ParsedText.exists_of_passes {source : Array Char} {test : ParsedText → Bool}
    (h : passes source test = true) : ∃ p, ofSource source = .ok p ∧ test p = true := by
  unfold passes at h
  split at h
  case h_1 p hp => exact ⟨p, hp, h⟩
  case h_2 => cases h

end LoopGuard
