import LoopGuard.Proofs.Syntax.Printer.Writer
import LoopGuard.Proofs.Syntax.TextOrder

/-!
# Statements in the layout of nodes

What a node writes is what its children write, one behind the other. The layouts keep their children
in order, but for a class: its heritage is written in front of its members.

Results:
* `AllPrint`: writers that write statements one after the other.
* `Layout.prints_unary`, `Layout.prints_function`, `Layout.prints_classOf` and their kin: one lemma
  for each layout.
-/

namespace LoopGuard

open Emit

/-! ## Lists of writers -/

/-- Whether writers, one after the other, write these statements. -/
inductive AllPrint : List (Emit Unit) → List Stmt → Prop
  | nil : AllPrint [] []
  | cons {e : Emit Unit} {es : List (Emit Unit)} {xs ys : List Stmt} (he : Prints e xs)
    (hes : AllPrint es ys) : AllPrint (e :: es) (xs ++ ys)

/-- Whether children, one after the other, write these statements. -/
def ChildrenPrint (cs : List WrittenChild) (xs : List Stmt) : Prop :=
  AllPrint (cs.map (·.bare)) xs

/-- Whether a child that may be missing writes these statements. -/
def ChildPrints? (c : Option WrittenChild) (xs : List Stmt) : Prop :=
  Prints (WrittenChild.bare? c) xs

namespace WrittenChild

variable {c : WrittenChild} {xs : List Stmt}

theorem prints_whole (h : Prints c.bare xs) : Prints c.whole xs := h.close

theorem prints_whole? {c : Option WrittenChild} (h : ChildPrints? c xs) : Prints (whole? c) xs := by
  cases c with
  | none => exact h
  | some c => exact prints_whole h

end WrittenChild

namespace AllPrint

variable {es : List (Emit Unit)} {xs : List Stmt} {cs : List WrittenChild}

theorem eq_nil (h : AllPrint [] xs) : xs = [] := by
  cases h
  rfl

theorem of_isEmpty (h : AllPrint es xs) (hes : es.isEmpty = true) : xs = [] := by
  cases h with
  | nil => rfl
  | cons => cases hes

/-- Writers of children that write what the children do. -/
theorem ofChildren {f : WrittenChild → Emit Unit}
    (hf : ∀ c xs, Prints c.bare xs → Prints (f c) xs) (h : ChildrenPrint cs xs) :
    AllPrint (cs.map f) xs := by
  unfold ChildrenPrint at h
  induction cs generalizing xs with
  | nil => exact h
  | cons c rest ih =>
    cases h with
    | cons he hes => exact .cons (hf c _ he) (ih hes)

theorem whole (h : ChildrenPrint cs xs) : AllPrint (cs.map (·.whole)) xs :=
  .ofChildren (fun _ _ => WrittenChild.prints_whole) h

end AllPrint

namespace Layout

variable {es : List (Emit Unit)} {xs ys zs : List Stmt} {items : List WrittenChild}

theorem prints_element {span : Span} {e : Emit Unit} (h : Prints e xs) :
    Prints (element span e) xs := h.close

theorem allPrint_bareElements (h : ChildrenPrint items xs) : AllPrint (bareElements items) xs :=
  .ofChildren (fun _ _ => prints_element) h

theorem allPrint_elements (h : ChildrenPrint items xs) : AllPrint (elements items) xs :=
  .ofChildren (fun _ _ hc => prints_element (WrittenChild.prints_whole hc)) h

theorem prints_separated (h : AllPrint es xs) : Prints (separated es) xs := by
  induction h with
  | nil => exact .nothing
  | cons he hes ih =>
    cases hes with
    | nil =>
      rw [List.append_nil]
      exact he
    | cons => exact he.seq (.skip ih)

theorem prints_eachOnLine (h : AllPrint es xs) : Prints (eachOnLine es) xs := by
  induction h with
  | nil => exact .nothing
  | cons he _ ih => exact .skip (he.seq ih)

theorem prints_eachOnCommaLine (h : AllPrint es xs) : Prints (eachOnCommaLine es) xs := by
  induction h with
  | nil => exact .nothing
  | cons he hes ih =>
    cases hes with
    | nil =>
      rw [List.append_nil]
      exact .skip he
    | cons => exact .skip (he.seq (.skip ih))

theorem prints_indentedLines (h : AllPrint es xs) : Prints (indentedLines es) xs :=
  (prints_eachOnLine h).indented.close

theorem prints_parenthesized (h : ChildrenPrint items xs) : Prints (parenthesized items) xs :=
  .skip (prints_separated (allPrint_elements h)).close

theorem prints_braces {isMarked : Bool} {span : Span} (h : AllPrint es xs) :
    Prints (braces isMarked span es) xs := by
  unfold braces
  refine .skip (.skipIf (.skip (.skipFor fun found => ?_)))
  exact .ifAny (fun hc => h.of_isEmpty (by simp_all)) (prints_indentedLines h).close

/-! ## Leaves and nodes with few children -/

instance quiet_stringText (span : Span) (value raw : String) :
    Quiet (stringText span value raw) := by
  unfold stringText
  infer_instance

instance quiet_leaf (span : Span) (l : Leaf) : Quiet (leaf span l) := by
  cases l with
  | bigint raw => cases span <;> unfold leaf <;> infer_instance
  | importKeyword phase =>
    refine ⟨.skip (.skip (.skip (.skip ?_)))⟩
    split <;> exact Quiet.prints
  | _ =>
    unfold leaf
    infer_instance

instance quiet_point (swallows : Bool) (key : Span) : Quiet (point swallows key) := by
  unfold point
  infer_instance

theorem prints_receiver {n : Node} {c : WrittenChild} (h : Prints c.bare xs) :
    Prints (receiver n c) xs := by
  exact .branch h (WrittenChild.prints_whole h)

theorem prints_access {span : Span} {object key : Node} {left right : WrittenChild}
    (hl : Prints left.bare xs) (hr : Prints right.bare ys) :
    Prints (access span object key left right) (xs ++ ys) := by
  have hbehind : Prints (do
      if !isComputed key then point (swallowsPoint object) right.span
      right.bare
      markEnd span) ys := .skipIf hr.close
  exact .skip (.branch (hl.seq hbehind) ((prints_receiver hl).seq hbehind))

theorem prints_unary {span : Span} {form : UnaryForm} {spaced : Bool} {arg : WrittenChild}
    (h : Prints arg.bare xs) : Prints (unary span form spaced arg) xs := by
  have hwhole := WrittenChild.prints_whole h
  refine .skipIf (.skipIf ?_)
  cases form with
  | spread | updateBefore op | await | rest dots => exact .skip hwhole
  | spreadProperty | paren | computed => exact .skip hwhole.close
  | operator op => exact .skip (.skipIf hwhole)
  | updateAfter op => exact hwhole.close
  | yield delegate =>
    exact .skip (.skipFor fun breaks => .branch (.skip hwhole.close) (.skip hwhole))
  | field isStatic => exact .skipIf h.close

theorem prints_binary {span : Span} {form : BinaryForm} {leftNode rightNode : Node}
    {left right : WrittenChild} (hl : Prints left.bare xs) (hr : Prints right.bare ys) :
    Prints (binary span form leftNode rightNode left right) (xs ++ ys) := by
  have hleft := WrittenChild.prints_whole hl
  have hright := WrittenChild.prints_whole hr
  refine .skip ?_
  cases form with
  | operator op => exact hleft.seq (.skip hright)
  | assign op | keyValue => exact hl.seq (.skip hright)
  | member inChain isOptional =>
    cases inChain with
    | false => exact prints_access hl hr
    | true => exact .skip ((prints_receiver hl).seq (.skip hr))
  | superMember => exact hl.seq (.skip hr)
  | default => exact .skip (hleft.seq (.skip hright.close))
  | coverDefault | shorthandDefault => exact .skip (hl.seq (.skip hright))
  | declarator => exact .skip (hleft.seq (.skip hright))
  | field isStatic => exact .skip (.skipIf (hl.seq (.skip hright.close)))
  | tagged => exact .skip ((prints_receiver hl).seq hr)

theorem prints_conditional {span : Span} {test yes no : WrittenChild} (ht : Prints test.bare xs)
    (hy : Prints yes.bare ys) (hn : Prints no.bare zs) :
    Prints (conditional span test yes no) (xs ++ (ys ++ zs)) := by
  have htest := WrittenChild.prints_whole ht
  have hyes := WrittenChild.prints_whole hy
  have hno := WrittenChild.prints_whole hn
  exact .skip (.skip (htest.seq (.skip (hyes.seq (.skip hno)))))

/-! ## Nodes with lists of children -/

theorem prints_templateParts (isText : Bool) (h : ChildrenPrint items xs) :
    Prints (templateParts isText items) xs := by
  unfold ChildrenPrint at h
  induction items generalizing isText xs with
  | nil =>
    rw [h.eq_nil]
    exact .nothing
  | cons part rest ih =>
    cases h with
    | cons hpart hrest =>
      have hrest := ih (!isText) hrest
      cases isText with
      | true => exact hpart.seq hrest
      | false =>
        have hbehind : Prints (do
          put "\x7d"
          templateParts true rest) _ := .skip hrest
        exact .skip ((WrittenChild.prints_whole hpart).seq hbehind)

theorem prints_group {span : Span} {form : GroupForm} {endsInHole : Bool}
    (h : ChildrenPrint items xs) : Prints (group span form endsInHole items) xs := by
  refine .skip ?_
  cases form with
  | array =>
    have hlines := prints_eachOnCommaLine (.whole h)
    refine .skip (.skip (.ifAny (fun hc => h.of_isEmpty (by simpa using hc)) ?_))
    exact (hlines.close).indented.close
  | arrayPattern =>
    refine .skip (.skip ((prints_separated (allPrint_elements h)).close))
  | object =>
    refine .skip (.skip (.skipFor fun found => ?_))
    exact .ifAny (fun hc => h.of_isEmpty (by simp_all)) (prints_eachOnCommaLine h).indented.close
  | objectPattern =>
    refine .skip (.skip (.ifAny (fun hc => h.of_isEmpty (by simpa using hc)) ?_))
    exact .skip (prints_separated (allPrint_bareElements h)).close
  | sequence => exact prints_separated (.whole h)
  | template => exact .skip (.skip (prints_templateParts true h).close)
  | «variables» kind => exact .skip (.skip (.skip (prints_separated (allPrint_elements h))))

theorem prints_call {span : Span} {form : CallForm} {calleeNode : Node} {callee : WrittenChild}
    (hc : Prints callee.bare xs) (ha : ChildrenPrint items ys) :
    Prints (call span form calleeNode callee items) (xs ++ if form.writesArgs then ys else []) := by
  have hcallee := WrittenChild.prints_whole hc
  have hargs := prints_parenthesized ha
  refine .skip (.skip ?_)
  cases form with
  | call => exact .branch (hc.seq hargs) ((prints_receiver hc).seq hargs)
  | new => exact .skip (hcallee.seq hargs)
  | newBare =>
    show Prints _ (xs ++ [])
    rw [List.append_nil]
    exact .skip hcallee
  | chain isOptional => exact hcallee.seq (.skipIf hargs)

/-! ## Functions and classes -/

theorem childrenPrint_markedEnds (h : ChildrenPrint items xs) :
    ChildrenPrint (markedEnds items) xs := by
  unfold ChildrenPrint markedEnds
  rw [List.map_map]
  exact .ofChildren (fun _ _ hc => (WrittenChild.prints_whole hc).close) h

instance quiet_memberComments (form : FunctionForm) (isPrivate : Bool)
    (name : Option WrittenChild) : Quiet (memberComments form isPrivate name) := by
  unfold memberComments
  split <;> infer_instance

theorem prints_function {span : Span} {form : FunctionForm} {isPrivate : Bool}
    {name : Option WrittenChild} {body : Bool → Emit Unit} (hn : ChildPrints? name xs)
    (hp : ChildrenPrint items ys) (hb : ∀ isMarked, Prints (body isMarked) zs) :
    Prints (function span form isPrivate name items body)
      ((if form.writesName then xs else []) ++ ((if form.writesParams then ys else []) ++ zs)) := by
  have hparams := prints_parenthesized hp
  have hmarked := prints_parenthesized (childrenPrint_markedEnds hp)
  refine .skip (.skip (.skip ?_))
  cases form with
  | function isAsync isGenerator =>
    exact .skip (.skipIf (hn.seq (hmarked.seq (.skip (hb _)))))
  | arrow isAsync => exact .skip (hparams.seq (.skip (hb _)))
  | method isAsync isGenerator => exact .skip (hn.seq (.skip (hmarked.seq (.skip (hb _)))))
  | getter => exact .skip (hn.seq (.skip (hparams.seq (.skip (hb _)))))
  | setter => exact .skip (hn.seq (.skip (hparams.seq (hb _))))
  | member isStatic kind isAsync isGenerator => exact .skip (hn.seq (hmarked.seq (.skip (hb _))))
  | constructor => exact .skip (hmarked.seq (hb _))
  | staticBlock => exact .skip (hb _).close

theorem prints_arrow {span : Span} {isAsync : Bool} {body : WrittenChild}
    (hp : ChildrenPrint items xs) (hb : Prints body.bare ys) :
    Prints (arrow span isAsync items body) (xs ++ ys) :=
  .skip (.skip (.skip ((prints_parenthesized hp).seq
    (.skip (WrittenChild.prints_whole hb).indented))))

theorem prints_classOf {span : Span} {name heritage : Option WrittenChild}
    (hn : ChildPrints? name xs) (hh : ChildPrints? heritage ys) (hm : ChildrenPrint items zs) :
    Prints (classOf span name items heritage) (xs ++ (ys ++ zs)) := by
  have hmembers : Prints (do
      put " \x7b"
      indentedLines (items.map (·.bare))
      markLast span
      put "\x7d") zs := .skip (prints_indentedLines hm).close
  have hheritage := (WrittenChild.prints_whole? hh).seq hmembers
  exact .skip (.skip (.skip (.skipIf (hn.seq (.skipIf hheritage)))))

end Layout

end LoopGuard
