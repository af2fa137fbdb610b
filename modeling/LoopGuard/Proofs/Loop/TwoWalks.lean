import LoopGuard.Proofs.Loop.Keys
import LoopGuard.Proofs.Loop.Refinement
import Mathlib.Data.List.Forall2
import Mathlib.Data.Option.Defs

/-!
# Two walks over one text

The alias and the source map do not show in what a walk finds. Two walks over one text meet the same
loops, or the same loop that cannot be protected, and make trees that are the same but for the alias
in the inserted calls and for the positions that reset calls are given.

Results:
* `Protector.protectProgram_alike`: two walks over one tree.
* `Transformer.run_eq_error_or`: two runs over one text fail alike, or have two walks to compare.
* `Transformer.transforms_agree`: what comes of one text with other options.
-/

namespace LoopGuard

/-! ## Trees -/

section Trees

variable (M : Stmt → Stmt → Prop)

mutual

/-- Whether two nodes are the same but for statements that `M` relates. -/
inductive Node.SameBut : Node → Node → Prop
  | refl (n : Node) : Node.SameBut n n
  | unary {span : Span} {form : UnaryForm} {arg arg' : Node} :
      Node.SameBut arg arg' → Node.SameBut (.unary span form arg) (.unary span form arg')
  | binary {span : Span} {form : BinaryForm} {left left' right right' : Node} :
      Node.SameBut left left' → Node.SameBut right right' →
      Node.SameBut (.binary span form left right) (.binary span form left' right')
  | conditional {span : Span} {test test' yes yes' no no' : Node} :
      Node.SameBut test test' → Node.SameBut yes yes' → Node.SameBut no no' →
      Node.SameBut (.conditional span test yes no) (.conditional span test' yes' no')
  | group {span : Span} {form : GroupForm} {items items' : List Node} :
      List.Forall₂ Node.SameBut items items' →
      Node.SameBut (.group span form items) (.group span form items')
  | call {span : Span} {form : CallForm} {callee callee' : Node} {args args' : List Node} :
      Node.SameBut callee callee' → List.Forall₂ Node.SameBut args args' →
      Node.SameBut (.call span form callee args) (.call span form callee' args')
  | function {span : Span} {form : FunctionForm} {name name' : Option Node}
      {params params' : List Node} {body body' : Block} :
      Option.Rel Node.SameBut name name' → List.Forall₂ Node.SameBut params params' →
      Block.SameBut body body' →
      Node.SameBut (.function span form name params body) (.function span form name' params' body')
  | arrow {span : Span} {isAsync : Bool} {params params' : List Node} {body body' : Node} :
      List.Forall₂ Node.SameBut params params' → Node.SameBut body body' →
      Node.SameBut (.arrow span isAsync params body) (.arrow span isAsync params' body')
  | class {span : Span} {name name' : Option Node} {members members' : List Node}
      {heritage heritage' : Option Node} :
      Option.Rel Node.SameBut name name' → List.Forall₂ Node.SameBut members members' →
      Option.Rel Node.SameBut heritage heritage' →
      Node.SameBut (.class span name members heritage) (.class span name' members' heritage')

/-- Whether two blocks are the same but for statements that `M` relates. -/
inductive Block.SameBut : Block → Block → Prop
  | mk {span : Span} {stmts stmts' : List Stmt} :
      List.Forall₂ Stmt.SameBut stmts stmts' → Block.SameBut (.mk span stmts) (.mk span stmts')

/-- Whether two statements are related by `M`, or are the same but for such statements in them. -/
inductive Stmt.SameBut : Stmt → Stmt → Prop
  | made {s s' : Stmt} : M s s' → Stmt.SameBut s s'
  | refl (s : Stmt) : Stmt.SameBut s s
  | expression {span : Span} {n n' : Node} :
      Node.SameBut n n' → Stmt.SameBut (.expression span n) (.expression span n')
  | declaration {n n' : Node} :
      Node.SameBut n n' → Stmt.SameBut (.declaration n) (.declaration n')
  | block {b b' : Block} : Block.SameBut b b' → Stmt.SameBut (.block b) (.block b')
  | return {span : Span} {value value' : Option Node} :
      Option.Rel Node.SameBut value value' →
      Stmt.SameBut (.return span value) (.return span value')
  | throw {span : Span} {value value' : Node} :
      Node.SameBut value value' → Stmt.SameBut (.throw span value) (.throw span value')
  | labeled {span : Span} {label : Label} {body body' : Stmt} :
      Stmt.SameBut body body' →
      Stmt.SameBut (.labeled span label body) (.labeled span label body')
  | withObject {span : Span} {object object' : Node} {body body' : Stmt} :
      Node.SameBut object object' → Stmt.SameBut body body' →
      Stmt.SameBut (.withObject span object body) (.withObject span object' body')
  | branch {span : Span} {test test' : Node} {yes yes' : Stmt} {no no' : Option Stmt} :
      Node.SameBut test test' → Stmt.SameBut yes yes' → Option.Rel Stmt.SameBut no no' →
      Stmt.SameBut (.branch span test yes no) (.branch span test' yes' no')
  | switch {span : Span} {subject subject' : Node} {cases cases' : List Case} :
      Node.SameBut subject subject' → List.Forall₂ Case.SameBut cases cases' →
      Stmt.SameBut (.switch span subject cases) (.switch span subject' cases')
  | try {span : Span} {body body' : Block} {handler handler' : Option Handler}
      {finalizer finalizer' : Option Block} :
      Block.SameBut body body' → Option.Rel Handler.SameBut handler handler' →
      Option.Rel Block.SameBut finalizer finalizer' →
      Stmt.SameBut (.try span body handler finalizer) (.try span body' handler' finalizer')
  | loop {span : Span} {head head' : LoopHead} {body body' : Stmt} :
      LoopHead.SameBut head head' → Stmt.SameBut body body' →
      Stmt.SameBut (.loop span head body) (.loop span head' body')

/-- Whether two clauses are the same but for statements that `M` relates. -/
inductive Case.SameBut : Case → Case → Prop
  | mk {span : Span} {test test' : Option Node} {body body' : List Stmt} :
      Option.Rel Node.SameBut test test' → List.Forall₂ Stmt.SameBut body body' →
      Case.SameBut (.mk span test body) (.mk span test' body')

/-- Whether two `catch` clauses are the same but for statements that `M` relates. -/
inductive Handler.SameBut : Handler → Handler → Prop
  | mk {span : Span} {param param' : Option Node} {body body' : Block} :
      Option.Rel Node.SameBut param param' → Block.SameBut body body' →
      Handler.SameBut (.mk span param body) (.mk span param' body')

/-- Whether two heads are the same but for statements that `M` relates. -/
inductive LoopHead.SameBut : LoopHead → LoopHead → Prop
  | while {test test' : Node} :
      Node.SameBut test test' → LoopHead.SameBut (.while test) (.while test')
  | doWhile {test test' : Node} :
      Node.SameBut test test' → LoopHead.SameBut (.doWhile test) (.doWhile test')
  | for {init init' test test' update update' : Option Node} :
      Option.Rel Node.SameBut init init' → Option.Rel Node.SameBut test test' →
      Option.Rel Node.SameBut update update' →
      LoopHead.SameBut (.for init test update) (.for init' test' update')
  | forIn {left left' right right' : Node} :
      Node.SameBut left left' → Node.SameBut right right' →
      LoopHead.SameBut (.forIn left right) (.forIn left' right')
  | forOf {isAwait : Bool} {left left' right right' : Node} :
      Node.SameBut left left' → Node.SameBut right right' →
      LoopHead.SameBut (.forOf isAwait left right) (.forOf isAwait left' right')

end

/-- Whether two elements are the same but for statements that `M` relates. -/
inductive Item.SameBut : Item → Item → Prop
  | refl (i : Item) : Item.SameBut i i
  | stmt {s s' : Stmt} : Stmt.SameBut M s s' → Item.SameBut (.stmt s) (.stmt s')
  | exportDecl {span : Span} {n n' : Node} :
      Node.SameBut M n n' → Item.SameBut (.exportDecl span n) (.exportDecl span n')
  | exportValue {span : Span} {n n' : Node} :
      Node.SameBut M n n' → Item.SameBut (.exportValue span n) (.exportValue span n')
  | exportDefault {span : Span} {n n' : Node} :
      Node.SameBut M n n' → Item.SameBut (.exportDefault span n) (.exportDefault span n')

/-- Whether two scripts or modules are the same but for statements that `M` relates. -/
structure Program.SameBut (program program' : Program) : Prop where
  span : program.span = program'.span
  shebang : program.shebang = program'.shebang
  items : List.Forall₂ (Item.SameBut M) program.items program'.items

end Trees

/-! ## What may differ -/

/-- Whether two statements are inserted for one loop. `O` relates the positions that the reset calls
are given. -/
inductive Stmt.InsertedAlike (a a' : Alias) (O : Position → Position → Prop) : Stmt → Stmt → Prop
  | reset {o o' : ResetOptions} (key : o.key = o'.key) (file : o.file = o'.file)
      (place : O ⟨o.line, o.column⟩ ⟨o'.line, o'.column⟩) :
      Stmt.InsertedAlike a a' O (.reset a o) (.reset a' o')
  | guard (key : LoopKey) : Stmt.InsertedAlike a a' O (.guard a key) (.guard a' key)

/-- Whether two sites are of one loop. `O` relates the positions that diagnostics name. -/
structure LoopSite.Agrees (O : Position → Position → Prop) (s s' : LoopSite) : Prop where
  key : s.key = s'.key
  file : s.file = s'.file
  kind : s.kind = s'.kind
  context : s.context = s'.context
  generated : s.generated = s'.generated
  original : O s.original s'.original

theorem LoopSite.Agrees.eq {s s' : LoopSite} (h : s.Agrees Eq s') : s = s' := by
  cases s
  cases s'
  obtain ⟨hkey, hfile, hkind, hcontext, hgenerated, horiginal⟩ := h
  cases hkey
  cases hfile
  cases hkind
  cases hcontext
  cases hgenerated
  cases horiginal
  rfl

/-- Whether two events are of one loop. -/
inductive WalkEvent.Agrees (O : Position → Position → Prop) : WalkEvent → WalkEvent → Prop
  | guarded {s s' : LoopSite} : s.Agrees O s' → WalkEvent.Agrees O (.guarded s) (.guarded s')
  | offended (o : Offence) : WalkEvent.Agrees O (.offended o) (.offended o)

/-- Whether two walks differ only in the alias and in the positions that diagnostics name. -/
structure Protector.Alike (O : Position → Position → Prop) (p p' : Protector) : Prop where
  file : p.file = p'.file
  place : p.place = p'.place
  original : ∀ q, O ((p.resolve q).getD q) ((p'.resolve q).getD q)

/-- Whether two walks meet the same, and answer something alike. -/
structure Traced.Alike (O : Position → Position → Prop) (V : α → α → Prop) (t t' : Traced α) :
    Prop where
  events : List.Forall₂ (WalkEvent.Agrees O) t.events t'.events
  value : V t.value t'.value

namespace WalkEvent

variable {O : Position → Position → Prop} {es es' : List WalkEvent}

theorem offence?_eq_of_agrees (h : List.Forall₂ (Agrees O) es es') :
    offence? es = offence? es' := by
  induction h with
  | nil => rfl
  | cons he _ ih =>
    cases he with
    | guarded => exact ih
    | offended => rfl

theorem sites_agree (h : List.Forall₂ (Agrees O) es es') :
    List.Forall₂ (LoopSite.Agrees O) (sites es) (sites es') := by
  induction h with
  | nil => exact .nil
  | cons he _ ih =>
    cases he with
    | guarded hs => exact .cons hs ih
    | offended => exact .nil

end WalkEvent

namespace Traced.Alike

variable {O : Position → Position → Prop} {V : α → α → Prop} {W : β → β → Prop}

theorem pure {a a' : α} (h : V a a') : Alike O V (Pure.pure a) (Pure.pure a') := ⟨.nil, h⟩

theorem bind {t t' : Traced α} {f f' : α → Traced β} (ht : Alike O V t t')
    (hf : ∀ a a', V a a' → Alike O W (f a) (f' a')) : Alike O W (t >>= f) (t' >>= f') where
  events := List.rel_append ht.events (hf _ _ ht.value).events
  value := (hf _ _ ht.value).value

theorem emit_bind {e e' : WalkEvent} {f f' : Unit → Traced β} (he : e.Agrees O e')
    (hf : Alike O W (f ()) (f' ())) : Alike O W (emit e >>= f) (emit e' >>= f') :=
  bind (V := fun _ _ => True) ⟨.cons he .nil, trivial⟩ fun _ _ _ => hf

end Traced.Alike

/-! ## Walks -/

namespace Protector

variable {p p' : Protector} {O : Position → Position → Prop}

/-- The statements that two walks put in for one loop. -/
abbrev Inserted (p p' : Protector) (O : Position → Position → Prop) : Stmt → Stmt → Prop :=
  Stmt.InsertedAlike p.guardAlias p'.guardAlias O

/-- Whether two walks answer the same of a statement: a reset call or none, and a statement. -/
def Answers (p p' : Protector) (O : Position → Position → Prop) (r r' : Option Stmt × Stmt) :
    Prop :=
  Option.Rel (Stmt.SameBut (p.Inserted p' O)) r.1 r'.1 ∧ Stmt.SameBut (p.Inserted p' O) r.2 r'.2

theorem Alike.agrees_site (h : p.Alike O p') (span : Span) (head : LoopHead)
    (context : InsertionContext) :
    (p.site span head context).Agrees O (p'.site span head context) := by
  have horiginal := h.original (p.place span.lo)
  unfold site
  rw [← h.file, ← h.place]
  exact ⟨rfl, rfl, rfl, rfl, rfl, horiginal⟩

theorem Alike.agrees_offence (h : p.Alike O p') (parent : LoopParent) (span : Span) :
    WalkEvent.Agrees O (.offended (p.offence parent span))
      (.offended (p'.offence parent span)) := by
  unfold offence
  rw [h.place]
  exact .offended _

theorem sequenced_sameBut {M : Stmt → Stmt → Prop} {reset reset' : Option Stmt} {s s' : Stmt}
    (hreset : Option.Rel (Stmt.SameBut M) reset reset') (hs : Stmt.SameBut M s s') :
    List.Forall₂ (Stmt.SameBut M) (sequenced reset s) (sequenced reset' s') := by
  cases hreset with
  | none => exact .cons hs .nil
  | some hr => exact .cons hr (.cons hs .nil)

theorem alone_sameBut {M : Stmt → Stmt → Prop} {reset reset' : Option Stmt} {s s' : Stmt}
    (hreset : Option.Rel (Stmt.SameBut M) reset reset') (hs : Stmt.SameBut M s s') :
    Stmt.SameBut M (alone reset s) (alone reset' s') := by
  cases hreset with
  | none => exact hs
  | some hr => exact .block (.mk (.cons hr (.cons hs .nil)))

/-- A loop with what is put in for it. -/
theorem answers_guarded {site site' : LoopSite} (hsite : site.Agrees O site')
    {head head' : LoopHead} (hhead : head.SameBut (p.Inserted p' O) head')
    {stmts stmts' : List Stmt}
    (hstmts : List.Forall₂ (Stmt.SameBut (p.Inserted p' O)) stmts stmts') (span bodySpan : Span) :
    Answers p p' O (p.guarded site span head bodySpan stmts)
      (p'.guarded site' span head' bodySpan stmts') := by
  have hreset : p.Inserted p' O (.reset p.guardAlias site.resetOptions)
      (.reset p'.guardAlias site'.resetOptions) :=
    .reset (congrArg LoopKey.text hsite.key) hsite.file hsite.original
  have hguard : p.Inserted p' O (.guard p.guardAlias site.key)
      (.guard p'.guardAlias site'.key) := by
    rw [hsite.key]
    exact .guard _
  exact ⟨.some (.made hreset), .loop hhead (.block (.mk (.cons (.made hguard) hstmts)))⟩

mutual

theorem protectNode_alike (h : p.Alike O p') : (n : Node) →
    (p.protectNode n).Alike O (Node.SameBut (p.Inserted p' O)) (p'.protectNode n)
  | .leaf .. => .pure (.refl _)
  | .unary _ _ arg => .bind (protectNode_alike h arg) fun _ _ harg => .pure (.unary harg)
  | .binary _ _ left right => by
    refine .bind (protectNode_alike h left) fun _ _ hleft => ?_
    refine .bind (protectNode_alike h right) fun _ _ hright => ?_
    exact .pure (.binary hleft hright)
  | .conditional _ test yes no => by
    refine .bind (protectNode_alike h test) fun _ _ htest => ?_
    refine .bind (protectNode_alike h yes) fun _ _ hyes => ?_
    refine .bind (protectNode_alike h no) fun _ _ hno => ?_
    exact .pure (.conditional htest hyes hno)
  | .group _ _ items => .bind (protectNodes_alike h items) fun _ _ hitems => .pure (.group hitems)
  | .call _ _ callee args => by
    refine .bind (protectNode_alike h callee) fun _ _ hcallee => ?_
    refine .bind (protectNodes_alike h args) fun _ _ hargs => ?_
    exact .pure (.call hcallee hargs)
  | .function _ _ name params body => by
    refine .bind (protectNode?_alike h name) fun _ _ hname => ?_
    refine .bind (protectNodes_alike h params) fun _ _ hparams => ?_
    refine .bind (protectBlock_alike h body) fun _ _ hbody => ?_
    exact .pure (.function hname hparams hbody)
  | .arrow _ _ params body => by
    refine .bind (protectNodes_alike h params) fun _ _ hparams => ?_
    refine .bind (protectNode_alike h body) fun _ _ hbody => ?_
    exact .pure (.arrow hparams hbody)
  | .class _ name members heritage => by
    refine .bind (protectNode?_alike h name) fun _ _ hname => ?_
    refine .bind (protectNodes_alike h members) fun _ _ hmembers => ?_
    refine .bind (protectNode?_alike h heritage) fun _ _ hheritage => ?_
    exact .pure (.class hname hmembers hheritage)

theorem protectNodes_alike (h : p.Alike O p') : (items : List Node) →
    (p.protectNodes items).Alike O (List.Forall₂ (Node.SameBut (p.Inserted p' O)))
      (p'.protectNodes items)
  | [] => .pure .nil
  | n :: rest => by
    refine .bind (protectNode_alike h n) fun _ _ hn => ?_
    refine .bind (protectNodes_alike h rest) fun _ _ hrest => ?_
    exact .pure (.cons hn hrest)

theorem protectNode?_alike (h : p.Alike O p') : (n : Option Node) →
    (p.protectNode? n).Alike O (Option.Rel (Node.SameBut (p.Inserted p' O))) (p'.protectNode? n)
  | none => .pure .none
  | some n => .bind (protectNode_alike h n) fun _ _ hn => .pure (.some hn)

theorem protectBlock_alike (h : p.Alike O p') : (b : Block) →
    (p.protectBlock b).Alike O (Block.SameBut (p.Inserted p' O)) (p'.protectBlock b)
  | .mk _ stmts => .bind (protectStmts_alike h .sequence stmts) fun _ _ hstmts => .pure (.mk hstmts)

theorem protectBlock?_alike (h : p.Alike O p') : (b : Option Block) →
    (p.protectBlock? b).Alike O (Option.Rel (Block.SameBut (p.Inserted p' O))) (p'.protectBlock? b)
  | none => .pure .none
  | some b => .bind (protectBlock_alike h b) fun _ _ hb => .pure (.some hb)

theorem protectStmts_alike (h : p.Alike O p') (context : InsertionContext) : (stmts : List Stmt) →
    (p.protectStmts context stmts).Alike O (List.Forall₂ (Stmt.SameBut (p.Inserted p' O)))
      (p'.protectStmts context stmts)
  | [] => .pure .nil
  | s :: rest => by
    refine .bind (protectStmt_alike h context s) fun _ _ hs => ?_
    refine .bind (protectStmts_alike h context rest) fun _ _ hrest => ?_
    exact .pure (List.rel_append (sequenced_sameBut hs.1 hs.2) hrest)

theorem protectStmt_alike (h : p.Alike O p') (context : InsertionContext) : (s : Stmt) →
    (p.protectStmt context s).Alike O (Answers p p' O) (p'.protectStmt context s)
  | .empty _ => .pure ⟨.none, .refl _⟩
  | .debugger _ => .pure ⟨.none, .refl _⟩
  | .expression _ n => .bind (protectNode_alike h n) fun _ _ hn => .pure ⟨.none, .expression hn⟩
  | .declaration n => .bind (protectNode_alike h n) fun _ _ hn => .pure ⟨.none, .declaration hn⟩
  | .block b => .bind (protectBlock_alike h b) fun _ _ hb => .pure ⟨.none, .block hb⟩
  | .return _ value =>
    .bind (protectNode?_alike h value) fun _ _ hvalue => .pure ⟨.none, .return hvalue⟩
  | .throw _ value =>
    .bind (protectNode_alike h value) fun _ _ hvalue => .pure ⟨.none, .throw hvalue⟩
  | .jump .. => .pure ⟨.none, .refl _⟩
  | .labeled _ _ body => by
    cases hl : body.isLoop with
    | true =>
      obtain ⟨_, _, _, rfl⟩ := Stmt.isLoop_iff.1 hl
      exact .emit_bind (h.agrees_offence _ _) (.pure ⟨.none, .refl _⟩)
    | false =>
      rw [protectStmt_labeled _ _ _ hl, protectStmt_labeled _ _ _ hl]
      exact .bind (protectStmt_alike h .sequence body) fun _ _ hbody =>
        .pure ⟨.none, .labeled hbody.2⟩
  | .withObject _ object body => by
    cases hl : body.isLoop with
    | true =>
      obtain ⟨_, _, _, rfl⟩ := Stmt.isLoop_iff.1 hl
      exact .emit_bind (h.agrees_offence _ _) (.pure ⟨.none, .refl _⟩)
    | false =>
      rw [protectStmt_withObject _ _ _ hl, protectStmt_withObject _ _ _ hl]
      exact .bind (protectNode_alike h object) fun _ _ hobject =>
        .bind (protectStmt_alike h .sequence body) fun _ _ hbody =>
          .pure ⟨.none, .withObject hobject hbody.2⟩
  | .branch _ test yes no => by
    refine .bind (protectNode_alike h test) fun _ _ htest => ?_
    refine .bind (protectStmt_alike h .branchArm yes) fun _ _ hyes => ?_
    refine .bind (protectArm?_alike h no) fun _ _ hno => ?_
    exact .pure ⟨.none, .branch htest (alone_sameBut hyes.1 hyes.2) hno⟩
  | .switch _ subject cases => by
    refine .bind (protectNode_alike h subject) fun _ _ hsubject => ?_
    refine .bind (protectCases_alike h cases) fun _ _ hcases => ?_
    exact .pure ⟨.none, .switch hsubject hcases⟩
  | .try _ body handler finalizer => by
    refine .bind (protectBlock_alike h body) fun _ _ hbody => ?_
    refine .bind (protectHandler?_alike h handler) fun _ _ hhandler => ?_
    refine .bind (protectBlock?_alike h finalizer) fun _ _ hfinalizer => ?_
    exact .pure ⟨.none, .try hbody hhandler hfinalizer⟩
  | .loop span head body => by
    have hsite := h.agrees_site span head context
    rw [protectStmt_loop, protectStmt_loop]
    refine .emit_bind (.guarded hsite) (.bind (protectHead_alike h head) fun _ _ hhead => ?_)
    refine .bind ?_ fun _ _ hstmts => .pure (answers_guarded hsite hhead hstmts span _)
    -- The statements of a body that is no block are the body alone.
    cases body with
    | block b =>
      cases b with
      | mk bodySpan stmts => exact protectStmts_alike h .sequence stmts
    | _ =>
      simp only [Stmt.unbraced, protectStmts_singleton]
      exact .bind (protectStmt_alike h .sequence _) fun _ _ hs =>
        .pure (sequenced_sameBut hs.1 hs.2)

theorem protectArm?_alike (h : p.Alike O p') : (s : Option Stmt) →
    (p.protectArm? s).Alike O (Option.Rel (Stmt.SameBut (p.Inserted p' O))) (p'.protectArm? s)
  | none => .pure .none
  | some s =>
    .bind (protectStmt_alike h .branchArm s) fun _ _ hs => .pure (.some (alone_sameBut hs.1 hs.2))

theorem protectHead_alike (h : p.Alike O p') : (head : LoopHead) →
    (p.protectHead head).Alike O (LoopHead.SameBut (p.Inserted p' O)) (p'.protectHead head)
  | .while test => .bind (protectNode_alike h test) fun _ _ htest => .pure (.while htest)
  | .doWhile test => .bind (protectNode_alike h test) fun _ _ htest => .pure (.doWhile htest)
  | .for init test update => by
    refine .bind (protectNode?_alike h init) fun _ _ hinit => ?_
    refine .bind (protectNode?_alike h test) fun _ _ htest => ?_
    refine .bind (protectNode?_alike h update) fun _ _ hupdate => ?_
    exact .pure (.for hinit htest hupdate)
  | .forIn left right => by
    refine .bind (protectNode_alike h left) fun _ _ hleft => ?_
    refine .bind (protectNode_alike h right) fun _ _ hright => ?_
    exact .pure (.forIn hleft hright)
  | .forOf _ left right => by
    refine .bind (protectNode_alike h left) fun _ _ hleft => ?_
    refine .bind (protectNode_alike h right) fun _ _ hright => ?_
    exact .pure (.forOf hleft hright)

theorem protectCases_alike (h : p.Alike O p') : (cases : List Case) →
    (p.protectCases cases).Alike O (List.Forall₂ (Case.SameBut (p.Inserted p' O)))
      (p'.protectCases cases)
  | [] => .pure .nil
  | .mk _ test body :: rest => by
    refine .bind (protectNode?_alike h test) fun _ _ htest => ?_
    refine .bind (protectStmts_alike h .switchArm body) fun _ _ hbody => ?_
    refine .bind (protectCases_alike h rest) fun _ _ hrest => ?_
    exact .pure (.cons (.mk htest hbody) hrest)

theorem protectHandler?_alike (h : p.Alike O p') : (handler : Option Handler) →
    (p.protectHandler? handler).Alike O (Option.Rel (Handler.SameBut (p.Inserted p' O)))
      (p'.protectHandler? handler)
  | none => .pure .none
  | some (.mk _ param body) => by
    refine .bind (protectNode?_alike h param) fun _ _ hparam => ?_
    refine .bind (protectBlock_alike h body) fun _ _ hbody => ?_
    exact .pure (.some (.mk hparam hbody))

end

theorem protectItem_alike (h : p.Alike O p') : (i : Item) →
    (p.protectItem i).Alike O (List.Forall₂ (Item.SameBut (p.Inserted p' O))) (p'.protectItem i)
  | .stmt s =>
    .bind (protectStmt_alike h .sequence s) fun _ _ hs => .pure <| by
      have hstmts := sequenced_sameBut hs.1 hs.2
      rw [List.forall₂_map_left_iff, List.forall₂_map_right_iff]
      exact hstmts.imp fun _ _ => .stmt
  | .exportDecl _ decl =>
    .bind (protectNode_alike h decl) fun _ _ hdecl => .pure (.cons (.exportDecl hdecl) .nil)
  | .exportValue _ value =>
    .bind (protectNode_alike h value) fun _ _ hvalue => .pure (.cons (.exportValue hvalue) .nil)
  | .exportDefault _ decl =>
    .bind (protectNode_alike h decl) fun _ _ hdecl => .pure (.cons (.exportDefault hdecl) .nil)
  | .imports .. | .exportList .. | .exportAll .. => .pure (.cons (.refl _) .nil)

theorem protectItems_alike (h : p.Alike O p') : (items : List Item) →
    (p.protectItems items).Alike O (List.Forall₂ (Item.SameBut (p.Inserted p' O)))
      (p'.protectItems items)
  | [] => .pure .nil
  | i :: rest => by
    refine .bind (protectItem_alike h i) fun _ _ hi => ?_
    refine .bind (protectItems_alike h rest) fun _ _ hrest => ?_
    exact .pure (List.rel_append hi hrest)

/-- Two walks over one tree meet the same and make trees that differ in what they put in. -/
theorem protectProgram_alike (h : p.Alike O p') (program : Program) :
    (p.protectProgram program).Alike O (Program.SameBut (p.Inserted p' O))
      (p'.protectProgram program) :=
  .bind (protectItems_alike h program.items) fun _ _ hitems => .pure ⟨rfl, rfl, hitems⟩

end Protector

/-! ## Texts -/

namespace Transformer

variable {t t' : Transformer}

theorem alike_protector (hfile : t.file = t'.file) (hcode : t.code = t'.code) :
    t.protector.Alike (fun _ _ => True) t'.protector where
  file := hfile
  place := congrArg Position.of hcode
  original _ := trivial

theorem alike_protector_of_map (hfile : t.file = t'.file) (hcode : t.code = t'.code)
    (hmap : t.inputMap = t'.inputMap) : t.protector.Alike Eq t'.protector where
  file := hfile
  place := congrArg Position.of hcode
  original q := by
    unfold protector
    rw [hmap]

/-- What is read of two texts that are the same, or the error. -/
theorem run_eq_error_or (hfile : t.file = t'.file) (hcode : t.code = t'.code) :
    (∃ e, t.run.1 = .error e ∧ t'.run.1 = .error e) ∨
      ∃ p, ParsedText.ofSource t.code.toArray = .ok p ∧
        t.run.1 = .ok (t.output p) ∧ t'.run.1 = .ok (t'.output p) := by
  cases hp : ParsedText.ofSource t.code.toArray with
  | error d =>
    have hp' : ParsedText.ofSource t'.code.toArray = .error d := by rw [← hcode, hp]
    left
    refine ⟨.parse t.file (Position.lookedUp t.code d.offset) d.fault, ?_, ?_⟩
    · simp only [run, hp]
    · simp only [run, hp', hfile, hcode]
  | ok p =>
    have hp' : ParsedText.ofSource t'.code.toArray = .ok p := by rw [← hcode, hp]
    have hevents := (Protector.protectProgram_alike (alike_protector hfile hcode) p.program).events
    have hoffence : WalkEvent.offence? (t.walk p).events = WalkEvent.offence? (t'.walk p).events :=
      WalkEvent.offence?_eq_of_agrees hevents
    cases ho : WalkEvent.offence? (t.walk p).events with
    | some o =>
      left
      refine ⟨.unsupportedParent t.file o, run_eq_error_of_offence hp ho, ?_⟩
      rw [hfile]
      exact run_eq_error_of_offence hp' (hoffence.symm.trans ho)
    | none =>
      right
      refine ⟨p, rfl, congrArg Prod.fst (run_of_no_offence hp ho), ?_⟩
      exact congrArg Prod.fst (run_of_no_offence hp' (hoffence.symm.trans ho))

/-- One text with other options: an alias that is none and a source map that cannot be read apart,
the same comes of it. It is the same error, or the same loops are found, with the same keys, and the
trees differ only in the alias and in the positions that reset calls are given. With the same source
map the positions are the same. -/
theorem transforms_agree {o o' : TransformOptions} (ht : of o = .ok t) (ht' : of o' = .ok t')
    (hfile : o.file = o'.file) (hcode : o.code = o'.code) :
    (∃ e, (transform o).1 = .error e ∧ (transform o').1 = .error e) ∨
    ∃ p out out', ParsedText.ofSource (withoutMark o.code.toList).toArray = .ok p ∧
      (transform o).1 = .ok out ∧ out.code = ((t.walk p).value.written p.comments).text ∧
      (transform o').1 = .ok out' ∧ out'.code = ((t'.walk p).value.written p.comments).text ∧
      List.Forall₂ (LoopSite.Agrees fun _ _ => True) out.loops out'.loops ∧
      Program.SameBut (Stmt.InsertedAlike t.guardAlias t'.guardAlias fun _ _ => True)
        (t.walk p).value (t'.walk p).value ∧
      (t.inputMap = t'.inputMap → out.loops = out'.loops ∧
        Program.SameBut (Stmt.InsertedAlike t.guardAlias t'.guardAlias Eq)
          (t.walk p).value (t'.walk p).value) := by
  obtain ⟨hfile₁, hcode₁⟩ := taken_of ht
  obtain ⟨hfile₂, hcode₂⟩ := taken_of ht'
  have hfile : t.file = t'.file := hfile₁.trans (hfile.trans hfile₂.symm)
  have hcode' : t.code = t'.code := by rw [hcode₁, hcode₂, hcode]
  have hrun : transform o = t.run := by rw [transform, ht]
  have hrun' : transform o' = t'.run := by rw [transform, ht']
  rw [hrun, hrun', ← hcode₁]
  rcases run_eq_error_or hfile hcode' with herror | ⟨p, hp, hout, hout'⟩
  · exact .inl herror
  · right
    have halike := Protector.protectProgram_alike (alike_protector hfile hcode') p.program
    refine ⟨p, _, _, hp, hout, rfl, hout', rfl, WalkEvent.sites_agree halike.events, halike.value,
      fun hmap => ?_⟩
    have hsame :=
      Protector.protectProgram_alike (alike_protector_of_map hfile hcode' hmap) p.program
    refine ⟨?_, hsame.value⟩
    have hsites := WalkEvent.sites_agree hsame.events
    rw [← List.forall₂_eq_eq_eq]
    exact hsites.imp fun _ _ hs => hs.eq

end Transformer

/-- A text that is reached under a longer alias and comes with a source map. -/
def mappedText : TransformOptions :=
  { endlessText "a.js" with
    guardAlias := "my.guard"
    sourceMap :=
      some "\x7b\"version\":3,\"sources\":[\"b.ts\"],\"names\":[],\"mappings\":\"AAGA\"\x7d"
    emitsSourceMap := true }

/-- The loop of the text is the one that is found without all this. -/
theorem Transformer.mappedText_agrees :
    ∃ out out', (transform (endlessText "a.js")).1 = .ok out ∧ (transform mappedText).1 = .ok out' ∧
      endlessText.site "a.js" ∈ out.loops ∧
      List.Forall₂ (LoopSite.Agrees fun _ _ => True) out.loops out'.loops := by
  have hread : (of (endlessText "a.js")).toOption.isSome = true := by decide +kernel
  have hread' : (of mappedText).toOption.isSome = true := by decide +kernel
  obtain ⟨found, hfound, hsite⟩ := endlessText_found "a.js"
  obtain ⟨t, ht⟩ := exists_of_isSome_toOption hread
  obtain ⟨t', ht'⟩ := exists_of_isSome_toOption hread'
  rcases transforms_agree ht ht' rfl rfl with ⟨e, herror, -⟩ | ⟨p, out, out', -, hout, -, hout', -,
    hagree, -⟩
  · rw [hfound] at herror
    cases herror
  · rw [hfound] at hout
    cases hout
    exact ⟨found, out', hfound, hout', hsite, hagree⟩

end LoopGuard
