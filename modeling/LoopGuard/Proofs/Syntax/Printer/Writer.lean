import LoopGuard.Syntax.Printer.Node
import Mathlib.Data.List.Sublists

/-!
# Statements in written text

Writing only adds to a text. What is followed here is which statements are written one behind
the other, among other text: a step of writing that writes none of those that are asked for is
quiet, and what steps in a row write follows each other.

Results:
* `Emit.Prints.seq`, `Emit.Prints.skip`: steps in a row.
* `PrintedBetween.sublist`: of the statements that are written, some.
-/

namespace LoopGuard

/-- Whether a text goes on in another one, and these statements are written on the way, one behind
the other. -/
def PrintedBetween (text : String) : List Stmt → String → Prop
  | [], later => ∃ more, later = text ++ more
  | s :: rest, later => ∃ (front more : String) (w : Writer), w.text = text ++ front ∧
      ((Print.statement s).run w).2.text = w.text ++ more ∧
      PrintedBetween (w.text ++ more) rest later

namespace PrintedBetween

variable {t t' t'' : String} {xs ys : List Stmt}

theorem refl (t : String) : PrintedBetween t [] t := ⟨"", (String.append_empty).symm⟩

/-- What stands in front of all of it. -/
theorem prepend {front : String} (h : PrintedBetween (t ++ front) xs t') :
    PrintedBetween t xs t' := by
  cases xs with
  | nil =>
    obtain ⟨more, rfl⟩ := h
    exact ⟨front ++ more, String.append_assoc ..⟩
  | cons s rest =>
    obtain ⟨between, more, w, hw, hs, hrest⟩ := h
    exact ⟨front ++ between, more, w, by rw [hw, String.append_assoc], hs, hrest⟩

theorem append (h₁ : PrintedBetween t xs t') (h₂ : PrintedBetween t' ys t'') :
    PrintedBetween t (xs ++ ys) t'' := by
  induction xs generalizing t with
  | nil =>
    obtain ⟨more, rfl⟩ := h₁
    exact h₂.prepend
  | cons s rest ih =>
    obtain ⟨front, more, w, hw, hs, hrest⟩ := h₁
    exact ⟨front, more, w, hw, hs, ih hrest⟩

theorem sublist (h : PrintedBetween t ys t') (hsub : xs.Sublist ys) : PrintedBetween t xs t' := by
  induction hsub generalizing t with
  | slnil => exact h
  | cons s hsub ih =>
    obtain ⟨front, more, w, hw, -, hrest⟩ := h
    rw [hw] at hrest
    exact (ih hrest).prepend.prepend
  | cons_cons s hsub ih =>
    obtain ⟨front, more, w, hw, hs, hrest⟩ := h
    exact ⟨front, more, w, hw, hs, ih hrest⟩

/-- What is written on the way is behind what stood there. -/
theorem goes_on (h : PrintedBetween t xs t') : ∃ more, t' = t ++ more :=
  h.sublist (List.nil_sublist _)

end PrintedBetween

/-! ## Writers -/

namespace Writer

/-- The spaces that a line at a depth starts with. -/
def spaces (depth : Nat) : String := String.ofList (List.replicate (4 * depth) ' ')

/-- What is written in front of a text at a depth; told whether it is the first of its line. -/
def margin (depth : Nat) (atLineStart : Bool) : String := if atLineStart then spaces depth else ""

variable (w : Writer) {s : String}

@[simp] theorem text_append (s : String) : (w.append s).text = w.text ++ s := rfl

@[simp] theorem indent_append (s : String) : (w.append s).indent = w.indent := rfl

@[simp] theorem atLineStart_append (s : String) : (w.append s).atLineStart = w.atLineStart := rfl

@[simp] theorem text_mark (offset : Nat) : (w.mark offset).text = w.text := rfl

@[simp] theorem indent_mark (offset : Nat) : (w.mark offset).indent = w.indent := rfl

@[simp] theorem atLineStart_mark (offset : Nat) : (w.mark offset).atLineStart = w.atLineStart := rfl

@[simp] theorem text_settleMark : w.settleMark.text = w.text := by
  unfold settleMark
  split <;> rfl

@[simp] theorem indent_settleMark : w.settleMark.indent = w.indent := by
  unfold settleMark
  split <;> rfl

@[simp] theorem atLineStart_settleMark : w.settleMark.atLineStart = w.atLineStart := by
  unfold settleMark
  split <;> rfl

theorem write_empty : w.write "" = w := rfl

theorem text_write (hs : s ≠ "") :
    (w.write s).text = w.text ++ (margin w.indent w.atLineStart ++ s) := by
  have hempty : ¬ s.isEmpty := by simpa using hs
  unfold write margin
  rw [if_neg hempty]
  split
  · simp [indentation, spaces, String.append_assoc]
  · simp

@[simp] theorem indent_write : (w.write s).indent = w.indent := by
  unfold write
  split_ifs <;> simp

theorem atLineStart_write (hs : s ≠ "") : (w.write s).atLineStart = false := by
  have hempty : ¬ s.isEmpty := by simpa using hs
  unfold write
  rw [if_neg hempty]
  split <;> simp_all

theorem text_writeMarked (lo hi : Nat) (s : String) :
    (w.writeMarked lo hi s).text = w.text ++ (margin w.indent w.atLineStart ++ s) := by
  unfold writeMarked margin
  split
  · simp [indentation, spaces, String.append_assoc]
  · simp

theorem text_endLine : w.endLine.text = w.text ++ if w.atLineStart then "" else "\n" := by
  unfold endLine
  split
  · simp_all
  · cases w.pendingMark <;> simp_all

@[simp] theorem indent_endLine : w.endLine.indent = w.indent := by
  unfold endLine
  cases w.atLineStart <;> cases w.pendingMark <;> simp

@[simp] theorem atLineStart_endLine : w.endLine.atLineStart = true := by
  unfold endLine
  cases w.atLineStart <;> cases w.pendingMark <;> simp

end Writer

/-! ## Steps of writing -/

namespace Emit

variable {e : Emit α} {f : α → Emit β} {xs ys : List Stmt}

/-- Whether a step writes these statements, one behind the other, whatever has been written. -/
def Prints (e : Emit α) (xs : List Stmt) : Prop :=
  ∀ w : Writer, PrintedBetween w.text xs (e.run w).2.text

/-- Whether a step only adds to what has been written. -/
class Quiet (e : Emit α) : Prop where
  prints : Prints e []

namespace Prints

theorem nothing {a : α} : Prints (Pure.pure a) [] := fun w => .refl w.text

theorem bind (he : Prints e xs) (hf : ∀ a, Prints (f a) ys) : Prints (e >>= f) (xs ++ ys) :=
  fun w => (he w).append (hf _ _)

/-- Two steps in a row. -/
theorem seq {f : Emit β} (he : Prints e xs) (hf : Prints f ys) :
    Prints (e >>= fun _ => f) (xs ++ ys) := he.bind fun _ => hf

/-- A quiet step in front of one that does not depend on it. -/
theorem skip {f : Emit β} [he : Quiet e] (hf : Prints f xs) : Prints (e >>= fun _ => f) xs :=
  he.prints.seq hf

/-- A quiet step whose answer is used. -/
theorem skipFor [he : Quiet e] (hf : ∀ a, Prints (f a) xs) : Prints (e >>= f) xs :=
  he.prints.bind hf

/-- A quiet step behind others. -/
theorem close {f : Emit β} (he : Prints e xs) [hf : Quiet f] : Prints (e >>= fun _ => f) xs := by
  have h := he.seq hf.prints
  rwa [List.append_nil] at h

/-- One of two steps. -/
theorem branch {c : Prop} [Decidable c] {e' : Emit α} (h : Prints e xs) (h' : Prints e' xs) :
    Prints (if c then e else e') xs := by
  split
  · exact h
  · exact h'

/-- One of two steps, the second of which is taken only if there is nothing to be written. -/
theorem ifAny {c : Prop} [Decidable c] {e' : Emit α} [he' : Quiet e'] (hxs : ¬ c → xs = [])
    (he : Prints e xs) : Prints (if c then e else e') xs := by
  split
  next => exact he
  next hc =>
    rw [hxs hc]
    exact he'.prints

/-- A quiet step that is taken under a condition. -/
theorem skipIf {c : Prop} [Decidable c] {e : Emit Unit} {f : Emit β} [Quiet e]
    (hf : Prints f xs) : Prints (if c then e >>= fun _ => f else f) xs := .branch hf.skip hf

end Prints

namespace Quiet

instance (a : α) : Quiet (pure a : Emit α) := ⟨.nothing⟩

instance bind [he : Quiet e] [hf : ∀ a, Quiet (f a)] : Quiet (e >>= f) :=
  ⟨he.prints.bind fun a => (hf a).prints⟩

instance ite {c : Prop} [Decidable c] {e f : Emit α} [Quiet e] [Quiet f] :
    Quiet (if c then e else f) := by
  split <;> assumption

theorem modify {g : Writer → Writer} (h : ∀ w, ∃ more, (g w).text = w.text ++ more) :
    Quiet (modify g : Emit Unit) := ⟨h⟩

instance get : Quiet (get : Emit Writer) := ⟨fun w => .refl w.text⟩

instance forEach {g : β → Unit → Emit (ForInStep Unit)} [hg : ∀ b u, Quiet (g b u)] (l : List β) :
    Quiet (forIn l () g) := by
  induction l with
  | nil => exact inferInstanceAs (Quiet (pure ()))
  | cons b rest ih =>
    rw [List.forIn_cons]
    refine ⟨(hg b ()).prints.bind fun r => ?_⟩
    cases r with
    | done u => exact Quiet.prints
    | yield u => exact ih.prints

end Quiet

instance quiet_put (s : String) : Quiet (put s) := by
  refine .modify fun w => ?_
  by_cases hs : s = ""
  · exact ⟨"", by rw [hs, w.write_empty, String.append_empty]⟩
  · exact ⟨_, w.text_write hs⟩

instance quiet_line : Quiet line := .modify fun w => ⟨_, w.text_endLine⟩

instance quiet_space : Quiet space := quiet_put " "

instance quiet_putMarked (s : Span) (text : String) : Quiet (putMarked s text) := by
  cases s with
  | synthetic => exact quiet_put text
  | source lo hi => exact .modify fun w => ⟨_, w.text_writeMarked lo hi text⟩

instance quiet_mark (offset : Nat) : Quiet (mark offset) := by
  refine .modify fun w => ⟨"", ?_⟩
  split <;> simp

instance quiet_markHere (offset : Nat) : Quiet (markHere offset) :=
  .modify fun w => ⟨"", by simp⟩

instance quiet_markStart (s : Span) : Quiet (markStart s) := by
  cases s <;> unfold markStart <;> infer_instance

instance quiet_markEnd (s : Span) : Quiet (markEnd s) := by
  cases s <;> unfold markEnd <;> infer_instance

instance quiet_markLast (s : Span) : Quiet (markLast s) := by
  cases s <;> unfold markLast <;> infer_instance

theorem Prints.indented {e : Emit Unit} (he : Prints e xs) : Prints (indented e) xs := by
  have hmore : Quiet (modify fun w => { w with indent := w.indent + 1 } : Emit Unit) :=
    .modify fun w => ⟨"", by simp⟩
  have hless : Quiet (modify fun w => { w with indent := w.indent - 1 } : Emit Unit) :=
    .modify fun w => ⟨"", by simp⟩
  exact .skip he.close

/-! ## Comments -/

instance quiet_comment (c : Comment) : Quiet (comment c) := by
  unfold comment
  cases c.kind <;> infer_instance

instance quiet_leadingAt (offset : Nat) : Quiet (leadingAt offset) := by
  constructor
  intro w
  have h : Quiet (forIn (w.comments.takeLeading offset).1 () fun c _ => do
    comment c
    pure (ForInStep.yield ())) := inferInstance
  exact h.prints { w with comments := (w.comments.takeLeading offset).2 }

instance quiet_leadingLast (s : Span) : Quiet (leadingLast s) := by
  cases s <;> unfold leadingLast <;> infer_instance

instance quiet_hasLeadingLast (s : Span) : Quiet (hasLeadingLast s) := by
  cases s <;> unfold hasLeadingLast <;> infer_instance

instance quiet_takeTrailing (offset : Nat) : Quiet (takeTrailing offset) :=
  ⟨fun w => .refl w.text⟩

instance quiet_trailingAt (offset : Nat) : Quiet (trailingAt offset) := by
  unfold trailingAt
  infer_instance

instance quiet_trailingElement (s : Span) : Quiet (trailingElement s) := by
  cases s <;> unfold trailingElement <;> infer_instance

instance quiet_leading (s : Span) : Quiet (leading s) := by
  cases s <;> unfold leading <;> infer_instance

instance quiet_leadingBefore (n : Nat) (s : Span) : Quiet (leadingBefore n s) := by
  cases s <;> unfold leadingBefore <;> infer_instance

instance quiet_hasLeadingLineBreak (s : Span) : Quiet (hasLeadingLineBreak s) := by
  cases s <;> unfold hasLeadingLineBreak <;> infer_instance

instance quiet_trailing (s : Span) : Quiet (trailing s) := by
  cases s <;> unfold trailing <;> infer_instance

end Emit

end LoopGuard
