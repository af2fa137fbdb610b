import LoopGuard.Transform

/-!
# The walk, construct by construct

What is to be known of walks before anything is said about trees: properties of the answer of a walk
that meets nothing but events of a kind, and what the walk does to a statement, in a form that does
not ask whether a loop's body has braces.

Results:
* `Traced.Gives.bind`, `Traced.Gives.emit_bind`: walks in a row.
* `Protector.gives_labeled`, `Protector.gives_withObject`: walks around a statement.
* `Protector.protectStmt_loop`: a loop with any body.
* `Protector.protectStmt_labeled`, `Protector.protectStmt_withObject`: statements around a statement
  that is no loop.
* `Protector.reset_protectStmt`: only a loop needs a reset call.
* `WalkEvent.sites_map_guarded`, `WalkEvent.offence?_eq_none_iff`: events of walks.
-/

namespace LoopGuard

/-! ## Events -/

namespace WalkEvent

/-- Whether a loop was met that is protected. -/
def IsGuarded : WalkEvent → Prop
  | guarded _ => True
  | offended _ => False

theorem offence?_eq_none_iff {es : List WalkEvent} :
    offence? es = none ↔ ∀ e ∈ es, e.IsGuarded := by
  induction es with
  | nil => simp [offence?]
  | cons e rest ih =>
    rw [List.forall_mem_cons, ← ih]
    cases e with
    | guarded site => simp [offence?, IsGuarded]
    | offended o => simp [offence?, IsGuarded]

theorem sites_map_guarded (sites : List LoopSite) :
    WalkEvent.sites (sites.map .guarded) = sites := by
  induction sites with
  | nil => rfl
  | cons s rest ih => rw [List.map_cons, WalkEvent.sites, ih]

end WalkEvent

/-! ## Answers -/

namespace Traced

theorem ext {s t : Traced α} (hv : s.value = t.value) (he : s.events = t.events) : s = t := by
  cases s
  cases t
  cases hv
  cases he
  rfl

/-- Whether the answer has a property if nothing but events of a kind is met on the way to it. -/
def Gives (met : WalkEvent → Prop) (t : Traced α) (Q : α → Prop) : Prop :=
  (∀ e ∈ t.events, met e) → Q t.value

/-- Whether this is the answer if nothing at all is met on the way to it. -/
def Keeps (t : Traced α) (a : α) : Prop := t.Gives (fun _ => False) (· = a)

namespace Gives

variable {met : WalkEvent → Prop} {t : Traced α} {P Q : α → Prop}

theorem of_value (h : Q t.value) : Gives met t Q := fun _ => h

theorem pure {a : α} (h : Q a) : Gives met (Pure.pure a) Q := of_value h

theorem mono (ht : Gives met t P) (h : ∀ a, P a → Q a) : Gives met t Q := fun ho => h _ (ht ho)

theorem and (hP : Gives met t P) (hQ : Gives met t Q) : Gives met t fun a => P a ∧ Q a :=
  fun h => ⟨hP h, hQ h⟩

theorem bind {f : α → Traced β} {Q : β → Prop} (ht : Gives met t P)
    (hf : ∀ a, P a → Gives met (f a) Q) : Gives met (t >>= f) Q := by
  intro h
  rw [events_bind, List.forall_mem_append] at h
  exact hf t.value (ht h.1) h.2

/-- An event, and what follows it. -/
theorem emit_bind {e : WalkEvent} {f : Unit → Traced α} (hf : met e → Gives met (f ()) Q) :
    Gives met (emit e >>= f) Q := by
  intro h
  rw [events_bind, List.forall_mem_append] at h
  exact hf (h.1 e List.mem_cons_self) h.2

end Gives

end Traced

/-! ## Sites -/

namespace Protector

/-- The key of the loop at a place. -/
def keyAt (p : Protector) (loop : Span) : LoopKey := .of p.file (p.place loop.lo)

/-- The argument of the reset call of the loop at a place. -/
def optionsAt (p : Protector) (loop : Span) : ResetOptions :=
  let original := (p.resolve (p.place loop.lo)).getD (p.place loop.lo)
  ⟨(p.keyAt loop).text, p.file, original.line, original.column⟩

@[simp] theorem key_site (p : Protector) (span : Span) (head : LoopHead)
    (context : InsertionContext) : (p.site span head context).key = p.keyAt span := rfl

@[simp] theorem resetOptions_site (p : Protector) (span : Span) (head : LoopHead)
    (context : InsertionContext) : (p.site span head context).resetOptions = p.optionsAt span := rfl

end Protector

/-! ## Statements -/

namespace Stmt

/-- Whether the statement is a loop. -/
def isLoop : Stmt → Bool
  | .loop _ _ _ => true
  | _ => false

theorem isLoop_iff {s : Stmt} :
    s.isLoop = true ↔ ∃ span head body, s = .loop span head body := by
  cases s <;> simp [isLoop]

/-- The statements between the braces of a block; any other statement alone. -/
def unbraced : Stmt → List Stmt
  | .block (.mk _ stmts) => stmts
  | s => [s]

/-- Where the braces of a block stand. -/
def braces : Stmt → Span
  | .block (.mk span _) => span
  | _ => .synthetic

end Stmt

namespace Protector

variable {p : Protector}

@[simp] theorem span_protectNode (n : Node) : (p.protectNode n).value.span = n.span := by
  cases n <;> simp [protectNode, Node.span]

@[simp] theorem span_protectBlock (b : Block) : (p.protectBlock b).value.span = b.span := by
  cases b
  simp [protectBlock, Block.span]

theorem protectStmt_labeled (context : InsertionContext) (span : Span) (label : Label) {body : Stmt}
    (h : body.isLoop = false) :
    p.protectStmt context (.labeled span label body) =
      (do let (_, body) ← p.protectStmt .sequence body
          return (none, .labeled span label body)) := by
  rw [protectStmt]
  rintro _ _ _ rfl
  cases h

theorem protectStmt_withObject (context : InsertionContext) (span : Span) (object : Node)
    {body : Stmt} (h : body.isLoop = false) :
    p.protectStmt context (.withObject span object body) =
      (do let object ← p.protectNode object
          let (_, body) ← p.protectStmt .sequence body
          return (none, .withObject span object body)) := by
  rw [protectStmt]
  rintro _ _ _ rfl
  cases h

theorem protectStmts_singleton (context : InsertionContext) (s : Stmt) :
    p.protectStmts context [s] =
      (do let (reset, s) ← p.protectStmt context s
          return sequenced reset s) := by
  refine Traced.ext ?_ ?_ <;> simp [protectStmts]

theorem protectStmt_loop (context : InsertionContext) (span : Span) (head : LoopHead)
    (body : Stmt) :
    p.protectStmt context (.loop span head body) =
      (do Traced.emit (.guarded (p.site span head context))
          let head' ← p.protectHead head
          let stmts ← p.protectStmts .sequence body.unbraced
          return p.guarded (p.site span head context) span head' body.braces stmts) := by
  cases body with
  | block b =>
    cases b
    rw [protectStmt]
    rfl
  | _ =>
    rw [protectStmt]
    · refine Traced.ext ?_ ?_ <;> simp [Stmt.unbraced, Stmt.braces, protectStmts]
    · rintro _ _ ⟨⟩

/-- Only a loop needs a reset call. -/
theorem reset_protectStmt (context : InsertionContext) {s : Stmt} (h : s.isLoop = false) :
    (p.protectStmt context s).value.1 = none := by
  cases s with
  | labeled span label body =>
    cases hl : body.isLoop with
    | false =>
      rw [protectStmt_labeled _ _ _ hl]
      rfl
    | true =>
      obtain ⟨_, _, _, rfl⟩ := Stmt.isLoop_iff.1 hl
      rfl
  | withObject span object body =>
    cases hl : body.isLoop with
    | false =>
      rw [protectStmt_withObject _ _ _ hl]
      rfl
    | true =>
      obtain ⟨_, _, _, rfl⟩ := Stmt.isLoop_iff.1 hl
      rfl
  | loop => cases h
  | _ => rfl

/-! ## Statements around a statement -/

section Around

variable {met : WalkEvent → Prop} (hmet : ∀ o, ¬met (.offended o)) (context : InsertionContext)
  (span : Span) {Q : Option Stmt × Stmt → Prop}
include hmet

/-- If nothing may be met that cannot be protected, what bears a label is no loop. -/
theorem gives_labeled (label : Label) {body : Stmt}
    (h : (p.protectStmt .sequence body).Gives met fun r =>
      r.1 = none → Q (none, .labeled span label r.2)) :
    (p.protectStmt context (.labeled span label body)).Gives met Q := by
  cases hl : body.isLoop with
  | false =>
    have hreset : (p.protectStmt .sequence body).Gives met fun r => r.1 = none :=
      .of_value (reset_protectStmt _ hl)
    rw [protectStmt_labeled _ _ _ hl]
    exact .bind (h.and hreset) fun _ hr => .pure (hr.1 hr.2)
  | true =>
    obtain ⟨_, _, _, rfl⟩ := Stmt.isLoop_iff.1 hl
    exact .emit_bind fun ho => absurd ho (hmet _)

/-- If nothing may be met that cannot be protected, the body of a `with` is no loop. -/
theorem gives_withObject {object : Node} {body : Stmt}
    (h : (p.protectNode object).Gives met fun object' =>
      (p.protectStmt .sequence body).Gives met fun r =>
        r.1 = none → Q (none, .withObject span object' r.2)) :
    (p.protectStmt context (.withObject span object body)).Gives met Q := by
  cases hl : body.isLoop with
  | false =>
    have hreset : (p.protectStmt .sequence body).Gives met fun r => r.1 = none :=
      .of_value (reset_protectStmt _ hl)
    rw [protectStmt_withObject _ _ _ hl]
    exact .bind h fun _ ho => .bind (ho.and hreset) fun _ hr => .pure (hr.1 hr.2)
  | true =>
    obtain ⟨_, _, _, rfl⟩ := Stmt.isLoop_iff.1 hl
    exact .emit_bind fun ho => absurd ho (hmet _)

end Around

end Protector

end LoopGuard
