import LoopGuard.Proofs.Loop.Walk
import LoopGuard.Proofs.Syntax.Parts

/-!
# Inserted statements

What a reset call and a guard check add to the parts of a tree: themselves, and parts that are
neither loops nor functions nor statements of these two kinds.

Results:
* `Stmt.plain_inside_reset`, `Stmt.plain_inside_guard`: nothing that counts stands inside an
  inserted statement.
* `filterMap_guarded`: what counts among the parts of a protected loop.
-/

namespace LoopGuard

namespace Stmt

/-- Whether the statement is a call without a place, as reset calls are. -/
def isMadeCall : Stmt → Bool
  | .expression .synthetic _ => true
  | _ => false

/-- Whether the statement is an `if` without a place, as guard checks are. -/
def isMadeCheck : Stmt → Bool
  | .branch .synthetic _ _ _ => true
  | _ => false

end Stmt

namespace Part

/-- The statement that a part is, if it is of this kind. -/
def stmt? (q : Stmt → Bool) : Part → Option Stmt
  | .stmt seat => if q seat.stmt then some seat.stmt else none
  | .node _ => none

/-- Whether a part is neither a loop nor a function nor an inserted statement. -/
structure IsPlain (x : Part) : Prop where
  loop : x.loop? = none
  body : x.body? = none
  call : x.stmt? Stmt.isMadeCall = none
  check : x.stmt? Stmt.isMadeCheck = none

@[simp] theorem isPlain_node {n : Node} : IsPlain (.node n) ↔ Part.body? (.node n) = none :=
  ⟨fun h => h.body, fun h => ⟨rfl, h, rfl, rfl⟩⟩

theorem isPlain_stmt {slot : Slot} {before : Option Stmt} {s : Stmt} (hl : s.isLoop = false)
    (hs : s.span ≠ .synthetic) : IsPlain (.stmt ⟨slot, before, s⟩) := by
  cases s with
  | loop => cases hl
  | expression span n =>
    cases span with
    | synthetic => exact absurd rfl hs
    | source lo hi => exact ⟨rfl, rfl, rfl, rfl⟩
  | branch span test yes no =>
    cases span with
    | synthetic => exact absurd rfl hs
    | source lo hi => exact ⟨rfl, rfl, rfl, rfl⟩
  | _ => exact ⟨rfl, rfl, rfl, rfl⟩

/-- A block counts for nothing, also one without a place. -/
theorem isPlain_block (slot : Slot) (before : Option Stmt) (b : Block) :
    IsPlain (.stmt ⟨slot, before, .block b⟩) := ⟨rfl, rfl, rfl, rfl⟩

/-- Whether none of these parts is a loop, a function or an inserted statement. -/
def Plain (xs : List Part) : Prop := ∀ x ∈ xs, x.IsPlain

@[simp] theorem plain_nil : Plain [] := by simp [Plain]

@[simp] theorem plain_cons {x : Part} {xs : List Part} :
    Plain (x :: xs) ↔ x.IsPlain ∧ Plain xs := List.forall_mem_cons

@[simp] theorem plain_append {xs ys : List Part} : Plain (xs ++ ys) ↔ Plain xs ∧ Plain ys :=
  List.forall_mem_append

theorem Plain.filterMap {f : Part → Option β} (hf : ∀ x, x.IsPlain → f x = none) {xs : List Part}
    (h : Plain xs) : xs.filterMap f = [] :=
  List.filterMap_eq_nil_iff.2 fun x hx => hf x (h x hx)

end Part

/-! ## Calls -/

namespace Part

/-- The calls without a place among some parts. -/
def calls (xs : List Part) : List Stmt := xs.filterMap (stmt? Stmt.isMadeCall)

@[simp] theorem calls_nil : calls [] = [] := rfl

@[simp] theorem calls_node (n : Node) (xs : List Part) : calls (.node n :: xs) = calls xs := rfl

@[simp] theorem calls_append (xs ys : List Part) : calls (xs ++ ys) = calls xs ++ calls ys :=
  List.filterMap_append

theorem calls_stmt {slot : Slot} {before : Option Stmt} {s : Stmt} (h : s.isMadeCall = false)
    (xs : List Part) : calls (.stmt ⟨slot, before, s⟩ :: xs) = calls xs := by
  simp [calls, stmt?, h]

@[simp] theorem calls_ite (c : Bool) (xs : List Part) :
    calls (if c then xs else []) = if c then calls xs else [] := by
  cases c <;> rfl

end Part

/-! ## What stands inside an inserted statement -/

namespace Node

/-- Whether a node holds no statement and is no function. -/
def IsPlain (n : Node) : Prop := Part.Plain (.node n :: n.inside)

theorem isPlain_leaf (span : Span) (l : Leaf) : (leaf span l).IsPlain := by
  simp [IsPlain, Part.body?]

theorem isPlain_binary {span : Span} {form : BinaryForm} {left right : Node} (hl : left.IsPlain)
    (hr : right.IsPlain) : (binary span form left right).IsPlain :=
  Part.plain_cons.2 ⟨Part.isPlain_node.2 rfl, Part.plain_append.2 ⟨hl, hr⟩⟩

theorem plain_insideAll {items : List Node} (h : ∀ n ∈ items, n.IsPlain) :
    Part.Plain (insideAll items) := by
  induction items with
  | nil => exact Part.plain_nil
  | cons n rest ih =>
    rw [List.forall_mem_cons] at h
    exact Part.plain_append.2 ⟨h.1, ih h.2⟩

theorem isPlain_madeString (value : String) : (madeString value).IsPlain := isPlain_leaf _ _

end Node

theorem Alias.isPlain_node (a : Alias) : a.node.IsPlain := by
  suffices h : ∀ (properties : List String) (n : Node), n.IsPlain →
      (properties.foldl Node.madeMember n).IsPlain from
    h a.properties (.madeName a.root) (Node.isPlain_leaf _ _)
  intro properties
  induction properties with
  | nil => exact fun _ h => h
  | cons w rest ih => exact fun n h => ih _ (Node.isPlain_binary h (Node.isPlain_leaf _ _))

theorem ResetOptions.isPlain_node (o : ResetOptions) : o.node.IsPlain := by
  refine Part.plain_cons.2 ⟨Part.isPlain_node.2 rfl, Node.plain_insideAll ?_⟩
  have h (key : String) (value : Node) (hv : value.IsPlain) :
      (Node.madeProperty key value).IsPlain := Node.isPlain_binary (Node.isPlain_madeString key) hv
  simp [h, Node.isPlain_madeString, Node.madeNumber, Node.isPlain_leaf]

namespace Stmt

/-- A call on the alias with one plain argument. -/
theorem plain_madeCall (a : Alias) (property : String) {arg : Node} (h : arg.IsPlain) :
    (Node.madeCall (.madeMember a.node property) [arg]).IsPlain := by
  refine Part.plain_cons.2 ⟨Part.isPlain_node.2 rfl, Part.plain_append.2 ⟨?_, ?_⟩⟩
  · exact Node.isPlain_binary a.isPlain_node (Node.isPlain_leaf _ _)
  · exact Node.plain_insideAll (by simpa using h)

theorem plain_inside_reset (a : Alias) (o : ResetOptions) : Part.Plain (reset a o).inside :=
  plain_madeCall a "reset" o.isPlain_node

theorem plain_inside_guard (a : Alias) (key : LoopKey) : Part.Plain (guard a key).inside := by
  have h := plain_madeCall a "guard" (Node.isPlain_madeString key.text)
  refine Part.plain_append.2 ⟨Part.plain_append.2 ⟨h, ?_⟩, Part.plain_nil⟩
  exact Part.plain_cons.2 ⟨⟨rfl, rfl, rfl, rfl⟩, Part.plain_nil⟩

end Stmt

/-! ## A protected loop -/

namespace Part

variable (slot : Slot) (before : Option Stmt) (a : Alias)

@[simp] theorem body?_stmt (seat : Seat) : body? (.stmt seat) = none := rfl

@[simp] theorem loop?_reset (o : ResetOptions) : loop? (.stmt ⟨slot, before, .reset a o⟩) = none :=
  rfl

@[simp] theorem loop?_guard (key : LoopKey) : loop? (.stmt ⟨slot, before, .guard a key⟩) = none :=
  rfl

@[simp] theorem madeCall_reset (o : ResetOptions) :
    stmt? Stmt.isMadeCall (.stmt ⟨slot, before, .reset a o⟩) = some (.reset a o) := rfl

@[simp] theorem madeCall_guard (key : LoopKey) :
    stmt? Stmt.isMadeCall (.stmt ⟨slot, before, .guard a key⟩) = none := rfl

@[simp] theorem madeCheck_reset (o : ResetOptions) :
    stmt? Stmt.isMadeCheck (.stmt ⟨slot, before, .reset a o⟩) = none := rfl

@[simp] theorem madeCheck_guard (key : LoopKey) :
    stmt? Stmt.isMadeCheck (.stmt ⟨slot, before, .guard a key⟩) = some (.guard a key) := rfl

@[simp] theorem loop?_loop (span : Span) (head : LoopHead) (body : Stmt) :
    loop? (.stmt ⟨slot, before, .loop span head body⟩) = some ⟨slot, before, span, head, body⟩ :=
  rfl

@[simp] theorem madeCall_loop (span : Span) (head : LoopHead) (body : Stmt) :
    stmt? Stmt.isMadeCall (.stmt ⟨slot, before, .loop span head body⟩) = none := rfl

@[simp] theorem madeCheck_loop (span : Span) (head : LoopHead) (body : Stmt) :
    stmt? Stmt.isMadeCheck (.stmt ⟨slot, before, .loop span head body⟩) = none := rfl

end Part

/-- What counts among the parts of a protected loop behind its reset call, for any way to count in
which plain parts do not. -/
theorem filterMap_guarded {p : Protector} {f : Part → Option β}
    (hf : ∀ x, x.IsPlain → f x = none) (slot : Slot) (before : Option Stmt) (site : LoopSite)
    (span : Span) (head : LoopHead) (bodySpan : Span) (stmts : List Stmt) :
    (Stmt.insideAll slot before (Protector.sequenced
        (p.guarded site span head bodySpan stmts).1
        (p.guarded site span head bodySpan stmts).2)).filterMap f =
      (f (.stmt ⟨slot, before, .reset p.guardAlias site.resetOptions⟩)).toList ++
      (f (.stmt ⟨slot, some (.reset p.guardAlias site.resetOptions),
        .loop span head (.block (.mk bodySpan (.guard p.guardAlias site.key :: stmts)))⟩)).toList ++
      head.inside.filterMap f ++
      (f (.stmt ⟨.list, none, .guard p.guardAlias site.key⟩)).toList ++
      (Stmt.insideAll .list (some (.guard p.guardAlias site.key)) stmts).filterMap f := by
  have hreset := (Stmt.plain_inside_reset p.guardAlias site.resetOptions).filterMap hf
  have hguard := (Stmt.plain_inside_guard p.guardAlias site.key).filterMap hf
  have hblock (b : Block) := hf _ (Part.isPlain_block .loopBody none b)
  have hcons (x : Part) (xs : List Part) :
      (x :: xs).filterMap f = (f x).toList ++ xs.filterMap f := by
    cases h : f x with
    | none => rw [List.filterMap_cons_none h, Option.toList_none, List.nil_append]
    | some y => rw [List.filterMap_cons_some h, Option.toList_some, List.singleton_append]
  simp [Protector.guarded, Protector.sequenced, hcons, hreset, hguard, hblock]

end LoopGuard
