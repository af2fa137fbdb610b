import LoopGuard.Proofs.Syntax.Parts
import Mathlib.Data.List.Nodup
import Mathlib.Data.List.Perm.Subperm

/-!
# The order of the text

A tree is walked in the order of its fields. In two constructs this is not the order in which they
are written: the test of a `do` loop is walked before its body and stands behind it, and the members
of a class are walked before its heritage and stand behind it. Here the parts of a tree are listed
in the order in which they are written, as far as they are written, and the two orders are compared.

Results:
* `Rearranged.append`, `Rearranged.turn`: lists that are made of rearranged pieces.
* `Program.loops_rearranged`: the loops of a script or module in the two orders.
-/

namespace LoopGuard

/-! ## Rearranged lists -/

namespace Rearranged

variable {xs ys : List α} {a b : α}

/-- Two elements that come one behind the other, in one piece or in two. -/
theorem pair_append : [a, b].Sublist (xs ++ ys) ↔
    [a, b].Sublist xs ∨ (a ∈ xs ∧ b ∈ ys) ∨ [a, b].Sublist ys := by
  rw [List.sublist_append_iff]
  constructor
  · rintro ⟨front, behind, hsplit, hfront, hbehind⟩
    rcases front with - | ⟨c, - | ⟨d, rest⟩⟩
    · cases hsplit
      exact .inr (.inr hbehind)
    · cases hsplit
      exact .inr (.inl ⟨List.singleton_sublist.1 hfront, List.singleton_sublist.1 hbehind⟩)
    · simp only [List.cons_append, List.cons.injEq] at hsplit
      obtain ⟨rfl, rfl, hnil⟩ := hsplit
      obtain ⟨rfl, rfl⟩ := List.append_eq_nil_iff.1 hnil.symm
      exact .inl hfront
  · rintro (h | ⟨ha, hb⟩ | h)
    · exact ⟨[a, b], [], rfl, h, List.nil_sublist _⟩
    · exact ⟨[a], [b], rfl, List.singleton_sublist.2 ha, List.singleton_sublist.2 hb⟩
    · exact ⟨[], [a, b], rfl, List.nil_sublist _, h⟩

theorem mem_of_pair (h : [a, b].Sublist xs) : a ∈ xs ∧ b ∈ xs :=
  ⟨h.subset (by simp), h.subset (by simp)⟩

end Rearranged

/-- Whether a list has elements of another one, each pair of them in the same order unless it is
turned. -/
structure Rearranged (Turned : α → α → Prop) (xs ys : List α) : Prop where
  subperm : ys.Subperm xs
  ofTurned : ∀ a b, Turned a b → [a, b].Sublist xs
  kept : xs.Nodup → ∀ a ∈ ys, ∀ b ∈ ys, [a, b].Sublist xs → ¬ Turned a b → [a, b].Sublist ys
  turned : xs.Nodup → ∀ a ∈ ys, ∀ b ∈ ys, Turned a b → [b, a].Sublist ys

namespace Rearranged

variable {T T' : α → α → Prop} {xs xs' ys ys' : List α} {a b : α}

theorem nil (hT : ∀ a b, ¬ T a b) : Rearranged T ([] : List α) [] :=
  ⟨List.nil_subperm, fun a b h => absurd h (hT a b), by simp, by simp⟩

/-- A list of which nothing is left. -/
theorem drop (h : Rearranged T xs ys) : Rearranged T xs [] :=
  ⟨List.nil_subperm, h.ofTurned, by simp, by simp⟩

theorem congr (h : Rearranged T xs ys) (hT : ∀ a b, T' a b ↔ T a b) : Rearranged T' xs ys := by
  have heq : T' = T := by
    funext a b
    exact propext (hT a b)
  rwa [heq]

/-- An element of one of two pieces without common elements is not in the other one. -/
theorem mem_left (hys : Rearranged T ys ys') (hnodup : (xs ++ ys).Nodup)
    (ha : a ∈ xs) (hmem : a ∈ xs' ∨ a ∈ ys') : a ∈ xs' :=
  hmem.resolve_right fun h => (List.nodup_append'.1 hnodup).2.2 ha (hys.subperm.subset h)

theorem mem_right (hxs : Rearranged T xs xs') (hnodup : (xs ++ ys).Nodup)
    (ha : a ∈ ys) (hmem : a ∈ xs' ∨ a ∈ ys') : a ∈ ys' :=
  hmem.resolve_left fun h => (List.nodup_append'.1 hnodup).2.2 (hxs.subperm.subset h) ha

/-- Two elements of the first of two pieces that are not turned. -/
theorem kept_left (hxs : Rearranged T xs xs') (hys : Rearranged T' ys ys')
    (hnodup : (xs ++ ys).Nodup) (ha : a ∈ xs' ∨ a ∈ ys') (hb : b ∈ xs' ∨ b ∈ ys')
    (hab : [a, b].Sublist xs) (hT : ¬ T a b) : [a, b].Sublist xs' := by
  have ha := hys.mem_left hnodup (mem_of_pair hab).1 ha
  have hb := hys.mem_left hnodup (mem_of_pair hab).2 hb
  exact hxs.kept (List.nodup_append'.1 hnodup).1 a ha b hb hab hT

theorem kept_right (hxs : Rearranged T xs xs') (hys : Rearranged T' ys ys')
    (hnodup : (xs ++ ys).Nodup) (ha : a ∈ xs' ∨ a ∈ ys') (hb : b ∈ xs' ∨ b ∈ ys')
    (hab : [a, b].Sublist ys) (hT : ¬ T' a b) : [a, b].Sublist ys' := by
  have ha := hxs.mem_right hnodup (mem_of_pair hab).1 ha
  have hb := hxs.mem_right hnodup (mem_of_pair hab).2 hb
  exact hys.kept (List.nodup_append'.1 hnodup).2.1 a ha b hb hab hT

/-- Two elements of the first of two pieces that are turned. -/
theorem turned_left (hxs : Rearranged T xs xs') (hys : Rearranged T' ys ys')
    (hnodup : (xs ++ ys).Nodup) (ha : a ∈ xs' ∨ a ∈ ys') (hb : b ∈ xs' ∨ b ∈ ys')
    (hT : T a b) : [b, a].Sublist xs' := by
  have hab := mem_of_pair (hxs.ofTurned a b hT)
  have ha := hys.mem_left hnodup hab.1 ha
  have hb := hys.mem_left hnodup hab.2 hb
  exact hxs.turned (List.nodup_append'.1 hnodup).1 a ha b hb hT

theorem turned_right (hxs : Rearranged T xs xs') (hys : Rearranged T' ys ys')
    (hnodup : (xs ++ ys).Nodup) (ha : a ∈ xs' ∨ a ∈ ys') (hb : b ∈ xs' ∨ b ∈ ys')
    (hT : T' a b) : [b, a].Sublist ys' := by
  have hab := mem_of_pair (hys.ofTurned a b hT)
  have ha := hxs.mem_right hnodup hab.1 ha
  have hb := hxs.mem_right hnodup hab.2 hb
  exact hys.turned (List.nodup_append'.1 hnodup).2.1 a ha b hb hT

/-- Two pieces, one behind the other. -/
theorem append (hxs : Rearranged T xs xs') (hys : Rearranged T' ys ys') :
    Rearranged (fun a b => T a b ∨ T' a b) (xs ++ ys) (xs' ++ ys') where
  subperm := hxs.subperm.append hys.subperm
  ofTurned a b h := by
    rcases h with h | h
    · exact pair_append.2 (.inl (hxs.ofTurned a b h))
    · exact pair_append.2 (.inr (.inr (hys.ofTurned a b h)))
  kept hnodup a ha b hb hab hT := by
    rw [not_or] at hT
    rw [List.mem_append] at ha hb
    rcases pair_append.1 hab with h | ⟨hax, hby⟩ | h
    · exact pair_append.2 (.inl (hxs.kept_left hys hnodup ha hb h hT.1))
    · have ha := hys.mem_left hnodup hax ha
      have hb := hxs.mem_right hnodup hby hb
      exact pair_append.2 (.inr (.inl ⟨ha, hb⟩))
    · exact pair_append.2 (.inr (.inr (hxs.kept_right hys hnodup ha hb h hT.2)))
  turned hnodup a ha b hb hT := by
    rw [List.mem_append] at ha hb
    rcases hT with h | h
    · exact pair_append.2 (.inl (hxs.turned_left hys hnodup ha hb h))
    · exact pair_append.2 (.inr (.inr (hxs.turned_right hys hnodup ha hb h)))

/-- Two pieces of which the first one comes behind the second. -/
theorem turn (hxs : Rearranged T xs xs') (hys : Rearranged T' ys ys') :
    Rearranged (fun a b => (a ∈ xs ∧ b ∈ ys) ∨ T a b ∨ T' a b) (xs ++ ys) (ys' ++ xs') where
  subperm := (hys.subperm.append hxs.subperm).trans List.perm_append_comm.subperm
  ofTurned a b h := by
    rcases h with h | h | h
    · exact pair_append.2 (.inr (.inl h))
    · exact pair_append.2 (.inl (hxs.ofTurned a b h))
    · exact pair_append.2 (.inr (.inr (hys.ofTurned a b h)))
  kept hnodup a ha b hb hab hT := by
    simp only [not_or] at hT
    rw [List.mem_append, or_comm] at ha hb
    rcases pair_append.1 hab with h | h | h
    · exact pair_append.2 (.inr (.inr (hxs.kept_left hys hnodup ha hb h hT.2.1)))
    · exact absurd h hT.1
    · exact pair_append.2 (.inl (hxs.kept_right hys hnodup ha hb h hT.2.2))
  turned hnodup a ha b hb hT := by
    rw [List.mem_append, or_comm] at ha hb
    rcases hT with ⟨hax, hby⟩ | h | h
    · have ha := hys.mem_left hnodup hax ha
      have hb := hxs.mem_right hnodup hby hb
      exact pair_append.2 (.inr (.inl ⟨hb, ha⟩))
    · exact pair_append.2 (.inr (.inr (hxs.turned_left hys hnodup ha hb h)))
    · exact pair_append.2 (.inl (hxs.turned_right hys hnodup ha hb h))

/-- One more element in front. -/
theorem cons (h : Rearranged T xs xs') (x : α) : Rearranged T (x :: xs) (x :: xs') := by
  have hx : Rearranged (fun _ _ => False) [x] [x] :=
    ⟨List.Subperm.refl _, by simp, fun _ _ _ _ _ h _ => h, by simp⟩
  exact (hx.append h).congr (by simp)

end Rearranged

/-! ## The parts in the order of the text -/

namespace FunctionForm

/-- Whether the name of such a function is written. -/
def writesName : FunctionForm → Bool
  | arrow _ | constructor | staticBlock => false
  | _ => true

/-- Whether the parameters of such a function are written. -/
def writesParams : FunctionForm → Bool
  | staticBlock => false
  | _ => true

end FunctionForm

namespace CallForm

/-- Whether the arguments of such a call are written. -/
def writesArgs : CallForm → Bool
  | newBare => false
  | _ => true

end CallForm

mutual

/-- The parts inside a node in the order of the text. -/
def Node.inText : Node → List Part
  | .leaf _ _ => []
  | .unary _ _ arg => .node arg :: arg.inText
  | .binary _ _ left right => .node left :: left.inText ++ .node right :: right.inText
  | .conditional _ test yes no =>
    .node test :: test.inText ++ .node yes :: yes.inText ++ .node no :: no.inText
  | .group _ _ items => Node.allInText items
  | .call _ form callee args =>
    .node callee :: callee.inText ++ if form.writesArgs then Node.allInText args else []
  | .function _ form name params body =>
    (if form.writesName then Node.inText? name else [])
      ++ (if form.writesParams then Node.allInText params else []) ++ body.inText
  | .arrow _ _ params body => Node.allInText params ++ .node body :: body.inText
  | .class _ name members heritage =>
    Node.inText? name ++ (Node.inText? heritage ++ Node.allInText members)

/-- The nodes of a list and the parts inside them, in the order of the text. -/
def Node.allInText : List Node → List Part
  | [] => []
  | n :: rest => .node n :: n.inText ++ Node.allInText rest

/-- A node that may be missing and the parts inside it, in the order of the text. -/
def Node.inText? : Option Node → List Part
  | none => []
  | some n => .node n :: n.inText

/-- The parts inside a block in the order of the text. -/
def Block.inText : Block → List Part
  | .mk _ stmts => Stmt.allInText .list none stmts

/-- The parts inside a block that may be missing, in the order of the text. -/
def Block.inText? : Option Block → List Part
  | none => []
  | some b => b.inText

/-- The statements of a list and the parts inside them, in the order of the text. -/
def Stmt.allInText (slot : Slot) (before : Option Stmt) : List Stmt → List Part
  | [] => []
  | s :: rest => .stmt ⟨slot, before, s⟩ :: s.inText ++ Stmt.allInText slot (some s) rest

/-- A statement that may be missing and the parts inside it, in the order of the text. -/
def Stmt.inText? (slot : Slot) : Option Stmt → List Part
  | none => []
  | some s => .stmt ⟨slot, none, s⟩ :: s.inText

/-- The parts inside a statement in the order of the text. A call without a place, as reset calls
are, counts as a whole. -/
def Stmt.inText : Stmt → List Part
  | .empty _ | .debugger _ | .jump _ _ _ => []
  | .expression span n => if span = .synthetic then [] else .node n :: n.inText
  | .declaration n | .throw _ n => .node n :: n.inText
  | .block b => b.inText
  | .return _ value => Node.inText? value
  | .labeled _ _ body => .stmt ⟨.labelBody, none, body⟩ :: body.inText
  | .withObject _ object body =>
    .node object :: object.inText ++ .stmt ⟨.withBody, none, body⟩ :: body.inText
  | .branch _ test yes no =>
    .node test :: test.inText ++ .stmt ⟨.arm, none, yes⟩ :: yes.inText ++ Stmt.inText? .arm no
  | .switch _ subject cases => .node subject :: subject.inText ++ Case.allInText cases
  | .try _ body handler finalizer =>
    body.inText ++ Handler.inText? handler ++ Block.inText? finalizer
  | .loop _ head body => head.around (.stmt ⟨.loopBody, none, body⟩ :: body.inText)

/-- The parts inside the clauses of a `switch` in the order of the text. -/
def Case.allInText : List Case → List Part
  | [] => []
  | .mk _ test body :: rest =>
    Node.inText? test ++ Stmt.allInText .clause none body ++ Case.allInText rest

/-- The parts inside a `catch` clause that may be missing, in the order of the text. -/
def Handler.inText? : Option Handler → List Part
  | none => []
  | some (.mk _ param body) => Node.inText? param ++ body.inText

/-- The parts inside the head of a loop in the order of the text, with those of its body where the
body is written. -/
def LoopHead.around : LoopHead → List Part → List Part
  | .while test, body => .node test :: test.inText ++ body
  | .doWhile test, body => body ++ .node test :: test.inText
  | .for init test update, body =>
    Node.inText? init ++ Node.inText? test ++ Node.inText? update ++ body
  | .forIn left right, body | .forOf _ left right, body =>
    .node left :: left.inText ++ .node right :: right.inText ++ body

end

/-- The parts of the elements of a script or module in the order of the text. -/
def Item.allInText (before : Option Stmt) : List Item → List Part
  | [] => []
  | .stmt s :: rest => .stmt ⟨.list, before, s⟩ :: s.inText ++ Item.allInText (some s) rest
  | .exportDecl _ n :: rest | .exportValue _ n :: rest | .exportDefault _ n :: rest =>
    .node n :: n.inText ++ Item.allInText none rest
  | .imports .. :: rest | .exportList .. :: rest | .exportAll .. :: rest => Item.allInText none rest

/-- The parts of a script or module in the order of the text. -/
def Program.inText (p : Program) : List Part := Item.allInText none p.items

/-- The loops of a script or module in the order of the text. -/
def Program.loopsInText (p : Program) : List LoopSeat := p.inText.filterMap Part.loop?

theorem Stmt.allInText_append (slot : Slot) (before : Option Stmt) (xs ys : List Stmt) :
    Stmt.allInText slot before (xs ++ ys) =
      Stmt.allInText slot before xs ++ Stmt.allInText slot (xs.getLast?.or before) ys := by
  induction xs generalizing before with
  | nil => simp [Stmt.allInText]
  | cons s rest ih =>
    rw [List.cons_append, Stmt.allInText, Stmt.allInText, ih, getLast?_cons_or, List.append_assoc]

theorem Item.allInText_append (before : Option Stmt) (stmts : List Stmt) (items : List Item) :
    Item.allInText before (stmts.map .stmt ++ items) =
      Stmt.allInText .list before stmts ++ Item.allInText (stmts.getLast?.or before) items := by
  induction stmts generalizing before with
  | nil => simp [Stmt.allInText]
  | cons s rest ih =>
    rw [List.map_cons, List.cons_append, Item.allInText, Stmt.allInText, ih, getLast?_cons_or,
      List.append_assoc]

/-! ## Loops that are turned -/

/-- Whether a part has one loop walked before another one that stands in front of it: the test of a
`do` loop is walked before its body, and the members of a class before its heritage. -/
def Part.Turns : Part → LoopSeat → LoopSeat → Prop
  | .stmt ⟨_, _, .loop _ (.doWhile test) body⟩, a, b =>
    a ∈ (.node test :: test.inside).filterMap Part.loop? ∧
      b ∈ (.stmt ⟨.loopBody, none, body⟩ :: body.inside).filterMap Part.loop?
  | .node (.class _ _ members heritage), a, b =>
    a ∈ (Node.insideAll members).filterMap Part.loop? ∧
      b ∈ (Node.inside? heritage).filterMap Part.loop?
  | _, _, _ => False

/-- Whether one of these parts turns two loops. -/
def Part.SomeTurns (parts : List Part) (a b : LoopSeat) : Prop := ∃ x ∈ parts, x.Turns a b

/-- Whether two loops of a script or module are walked in this order and written in the other. -/
def Program.Turned (p : Program) : LoopSeat → LoopSeat → Prop := Part.SomeTurns p.parts

namespace Part

@[simp] theorem someTurns_nil (a b : LoopSeat) : ¬ SomeTurns [] a b := by simp [SomeTurns]

@[simp] theorem someTurns_cons (x : Part) (xs : List Part) (a b : LoopSeat) :
    SomeTurns (x :: xs) a b ↔ x.Turns a b ∨ SomeTurns xs a b := by simp [SomeTurns]

@[simp] theorem someTurns_append (xs ys : List Part) (a b : LoopSeat) :
    SomeTurns (xs ++ ys) a b ↔ SomeTurns xs a b ∨ SomeTurns ys a b := by
  simp [SomeTurns, or_and_right, exists_or]

/-- Whether parts are listed in the order in which they are walked and in the order of the text. -/
def InText (old new : List Part) : Prop :=
  Rearranged (SomeTurns old) (old.filterMap loop?) (new.filterMap loop?)

namespace InText

variable {old new old₁ old₂ new₁ new₂ : List Part} {x : Part}

theorem nil : InText [] [] := Rearranged.nil (by simp)

theorem drop (h : InText old new) : InText old [] := Rearranged.drop h

theorem append (h₁ : InText old₁ new₁) (h₂ : InText old₂ new₂) :
    InText (old₁ ++ old₂) (new₁ ++ new₂) := by
  unfold InText at *
  rw [List.filterMap_append, List.filterMap_append]
  exact (Rearranged.append h₁ h₂).congr (by simp)

/-- A part in front of what is inside it. -/
theorem around (h : Rearranged (fun a b => x.Turns a b ∨ SomeTurns old a b)
    (old.filterMap loop?) (new.filterMap loop?)) : InText (x :: old) (x :: new) := by
  have h : Rearranged (SomeTurns (x :: old)) (old.filterMap loop?) (new.filterMap loop?) :=
    h.congr (by simp)
  unfold InText
  cases hx : x.loop? with
  | none => rwa [List.filterMap_cons_none hx, List.filterMap_cons_none hx]
  | some l =>
    rw [List.filterMap_cons_some hx, List.filterMap_cons_some hx]
    exact h.cons l

/-- A part that turns nothing in front of what is inside it. -/
theorem cons (h : InText old new) (hx : ∀ a b, ¬ x.Turns a b) : InText (x :: old) (x :: new) :=
  around (Rearranged.congr h (by simp [hx]))

/-- The test of a `do` loop is written behind its body. -/
theorem doWhile {slot : Slot} {before : Option Stmt} {span : Span} {test : Node} {body : Stmt}
    {test' body' : List Part} (ht : InText (.node test :: test.inside) test')
    (hb : InText (.stmt ⟨.loopBody, none, body⟩ :: body.inside) body') :
    InText (.stmt ⟨slot, before, .loop span (.doWhile test) body⟩ ::
        (.node test :: test.inside ++ .stmt ⟨.loopBody, none, body⟩ :: body.inside))
      (.stmt ⟨slot, before, .loop span (.doWhile test) body⟩ :: (body' ++ test')) := by
  refine around ?_
  rw [List.filterMap_append, List.filterMap_append]
  exact (Rearranged.turn ht hb).congr fun a b => or_congr Iff.rfl (someTurns_append _ _ a b)

/-- The members of a class are written behind its heritage. -/
theorem «class» {span : Span} {name heritage : Option Node} {members : List Node}
    {name' members' heritage' : List Part} (hn : InText (Node.inside? name) name')
    (hm : InText (Node.insideAll members) members')
    (hh : InText (Node.inside? heritage) heritage') :
    InText (.node (.class span name members heritage) ::
        (Node.inside? name ++ Node.insideAll members ++ Node.inside? heritage))
      (.node (.class span name members heritage) :: (name' ++ (heritage' ++ members'))) := by
  refine around ?_
  rw [List.append_assoc, List.filterMap_append, List.filterMap_append, List.filterMap_append,
    List.filterMap_append]
  refine (Rearranged.append hn (Rearranged.turn hm hh)).congr ?_
  simp [Turns, or_left_comm]

end InText

end Part

mutual

theorem Node.inText_inside : (n : Node) →
    Part.InText (.node n :: n.inside) (.node n :: n.inText)
  | .leaf _ _ => Part.InText.nil.cons fun _ _ => id
  | .unary _ _ arg => (Node.inText_inside arg).cons fun _ _ => id
  | .binary _ _ left right =>
    ((Node.inText_inside left).append (Node.inText_inside right)).cons fun _ _ => id
  | .conditional _ test yes no =>
    (((Node.inText_inside test).append (Node.inText_inside yes)).append
      (Node.inText_inside no)).cons fun _ _ => id
  | .group _ _ items => (Node.allInText_insideAll items).cons fun _ _ => id
  | .call _ form callee args => by
    have hargs : Part.InText (Node.insideAll args)
        (if form.writesArgs then Node.allInText args else []) := by
      have h := Node.allInText_insideAll args
      split
      · exact h
      · exact h.drop
    exact ((Node.inText_inside callee).append hargs).cons fun _ _ => id
  | .function _ form name params body => by
    have hname : Part.InText (Node.inside? name)
        (if form.writesName then Node.inText? name else []) := by
      have h := Node.inText?_inside? name
      split
      · exact h
      · exact h.drop
    have hparams : Part.InText (Node.insideAll params)
        (if form.writesParams then Node.allInText params else []) := by
      have h := Node.allInText_insideAll params
      split
      · exact h
      · exact h.drop
    exact ((hname.append hparams).append (Block.inText_inside body)).cons fun _ _ => id
  | .arrow _ _ params body =>
    ((Node.allInText_insideAll params).append (Node.inText_inside body)).cons fun _ _ => id
  | .class _ name members heritage =>
    .class (Node.inText?_inside? name) (Node.allInText_insideAll members)
      (Node.inText?_inside? heritage)

theorem Node.allInText_insideAll : (items : List Node) →
    Part.InText (Node.insideAll items) (Node.allInText items)
  | [] => .nil
  | n :: rest => (Node.inText_inside n).append (Node.allInText_insideAll rest)

theorem Node.inText?_inside? : (n : Option Node) →
    Part.InText (Node.inside? n) (Node.inText? n)
  | none => .nil
  | some n => Node.inText_inside n

theorem Block.inText_inside : (b : Block) → Part.InText b.inside b.inText
  | .mk _ stmts => Stmt.allInText_insideAll .list none stmts

theorem Block.inText?_inside? : (b : Option Block) →
    Part.InText (Block.inside? b) (Block.inText? b)
  | none => .nil
  | some b => Block.inText_inside b

theorem Stmt.allInText_insideAll (slot : Slot) (before : Option Stmt) : (stmts : List Stmt) →
    Part.InText (Stmt.insideAll slot before stmts) (Stmt.allInText slot before stmts)
  | [] => .nil
  | s :: rest =>
    (Stmt.inText_inside slot before s).append (Stmt.allInText_insideAll slot (some s) rest)

theorem Stmt.inText?_inside? (slot : Slot) : (s : Option Stmt) →
    Part.InText (Stmt.inside? slot s) (Stmt.inText? slot s)
  | none => .nil
  | some s => Stmt.inText_inside slot none s

theorem Stmt.inText_inside (slot : Slot) (before : Option Stmt) : (s : Stmt) →
    Part.InText (.stmt ⟨slot, before, s⟩ :: s.inside) (.stmt ⟨slot, before, s⟩ :: s.inText)
  | .empty _ | .debugger _ | .jump _ _ _ => Part.InText.nil.cons fun _ _ => id
  | .expression span n => by
    have h := Node.inText_inside n
    refine Part.InText.cons ?_ fun _ _ => id
    rw [Stmt.inside, Stmt.inText]
    split
    · exact h.drop
    · exact h
  | .declaration n | .throw _ n => (Node.inText_inside n).cons fun _ _ => id
  | .block b => (Block.inText_inside b).cons fun _ _ => id
  | .return _ value => (Node.inText?_inside? value).cons fun _ _ => id
  | .labeled _ _ body => (Stmt.inText_inside .labelBody none body).cons fun _ _ => id
  | .withObject _ object body =>
    ((Node.inText_inside object).append (Stmt.inText_inside .withBody none body)).cons
      fun _ _ => id
  | .branch _ test yes no =>
    (((Node.inText_inside test).append (Stmt.inText_inside .arm none yes)).append
      (Stmt.inText?_inside? .arm no)).cons fun _ _ => id
  | .switch _ subject cases =>
    ((Node.inText_inside subject).append (Case.allInText_insideAll cases)).cons fun _ _ => id
  | .try _ body handler finalizer =>
    (((Block.inText_inside body).append (Handler.inText?_inside? handler)).append
      (Block.inText?_inside? finalizer)).cons fun _ _ => id
  | .loop _ (.while test) body =>
    ((Node.inText_inside test).append (Stmt.inText_inside .loopBody none body)).cons
      fun _ _ => id
  | .loop _ (.doWhile test) body =>
    .doWhile (Node.inText_inside test) (Stmt.inText_inside .loopBody none body)
  | .loop _ (.for init test update) body =>
    ((((Node.inText?_inside? init).append (Node.inText?_inside? test)).append
      (Node.inText?_inside? update)).append (Stmt.inText_inside .loopBody none body)).cons
      fun _ _ => id
  | .loop _ (.forIn left right) body | .loop _ (.forOf _ left right) body =>
    (((Node.inText_inside left).append (Node.inText_inside right)).append
      (Stmt.inText_inside .loopBody none body)).cons fun _ _ => id

theorem Case.allInText_insideAll : (cases : List Case) →
    Part.InText (Case.insideAll cases) (Case.allInText cases)
  | [] => .nil
  | .mk _ test body :: rest =>
    ((Node.inText?_inside? test).append (Stmt.allInText_insideAll .clause none body)).append
      (Case.allInText_insideAll rest)

theorem Handler.inText?_inside? : (h : Option Handler) →
    Part.InText (Handler.inside? h) (Handler.inText? h)
  | none => .nil
  | some (.mk _ param body) => (Node.inText?_inside? param).append (Block.inText_inside body)

end

theorem Item.allInText_parts : (before : Option Stmt) → (items : List Item) →
    Part.InText (Item.parts before items) (Item.allInText before items)
  | _, [] => .nil
  | before, .stmt s :: rest =>
    (Stmt.inText_inside .list before s).append (Item.allInText_parts (some s) rest)
  | _, .exportDecl _ n :: rest | _, .exportValue _ n :: rest | _, .exportDefault _ n :: rest =>
    (Node.inText_inside n).append (Item.allInText_parts none rest)
  | _, .imports .. :: rest | _, .exportList .. :: rest | _, .exportAll .. :: rest =>
    Item.allInText_parts none rest

/-- The loops of a script or module are walked in the order in which they are written, but for the
pairs that are turned. -/
theorem Program.loops_rearranged (p : Program) : Rearranged p.Turned p.loops p.loopsInText :=
  Item.allInText_parts none p.items

end LoopGuard
