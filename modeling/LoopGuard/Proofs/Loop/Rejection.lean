import LoopGuard.Proofs.Loop.Coverage
import LoopGuard.Proofs.Loop.Stop

/-!
# Loops that cannot be protected

A loop that is the body of a labeled statement or of a `with` makes the whole text fail. Which loop
the error names, and which loops are reported before it, is told by the order in which the walk
meets the loops of a tree.

That is the order in which they are written, with one exception: the body of a `with` is looked at
before anything inside the statement, so if it is a loop it is met before the loops of the object.

Results:
* `Protector.protectProgram_meets`: the walk meets the loops of a tree in this order.
* `Transformer.run_stops_at_first_offender`: what comes of a text that was read.
* `Transformer.withAroundLabel_blames_with`: the order in which loops are written is not the order
  in which they are met.
-/

namespace LoopGuard

/-! ## The order of loops -/

/-- The statement that a loop in this slot is the body of, if it cannot be protected there. -/
def Slot.parent? : Slot → Option LoopParent
  | .labelBody => some .labeled
  | .withBody => some .withObject
  | .list | .clause | .arm | .loopBody => none

/-- The loop that is met at a part: the loop that the part is, or the loop that is the body of the
labeled statement or `with` that it is. -/
def Part.met? : Part → Option LoopSeat
  | .stmt ⟨_, _, .labeled _ _ (.loop span head body)⟩ => some ⟨.labelBody, none, span, head, body⟩
  | .stmt ⟨_, _, .withObject _ _ (.loop span head body)⟩ => some ⟨.withBody, none, span, head, body⟩
  | .stmt ⟨slot, before, .loop span head body⟩ =>
    if slot.parent?.isSome then none else some ⟨slot, before, span, head, body⟩
  | _ => none

/-- The loops of a script or module in the order in which a walk meets them. -/
def Program.loopsMet (p : Program) : List LoopSeat := p.parts.filterMap Part.met?

/-! ## Events up to an offence -/

namespace WalkEvent

/-- The events up to the first offence. -/
def upTo : List WalkEvent → List WalkEvent
  | [] => []
  | guarded site :: rest => guarded site :: upTo rest
  | offended o :: _ => [offended o]

theorem sites_upTo (es : List WalkEvent) : sites (upTo es) = sites es := by
  induction es with
  | nil => rfl
  | cons e rest ih =>
    cases e with
    | guarded site => rw [upTo, sites, sites, ih]
    | offended o => rfl

theorem offence?_upTo (es : List WalkEvent) : offence? (upTo es) = offence? es := by
  induction es with
  | nil => rfl
  | cons e rest ih =>
    cases e with
    | guarded site => exact ih
    | offended o => rfl

theorem upTo_append (xs ys : List WalkEvent) :
    upTo (xs ++ ys) = upTo xs ++ if (offence? xs).isSome then [] else upTo ys := by
  induction xs with
  | nil => rfl
  | cons e rest ih =>
    cases e with
    | guarded site =>
      rw [List.cons_append, upTo, ih]
      rfl
    | offended o => rfl

/-- Whether two lists of events are the same up to the first offence. -/
def Agree (xs ys : List WalkEvent) : Prop := upTo xs = upTo ys

namespace Agree

variable {xs ys xs' ys' : List WalkEvent}

theorem append (h : Agree xs ys) (h' : Agree xs' ys') : Agree (xs ++ xs') (ys ++ ys') := by
  unfold Agree at h h' ⊢
  have ho : offence? xs = offence? ys := by rw [← offence?_upTo, h, offence?_upTo]
  rw [upTo_append, upTo_append, h, h', ho]

theorem cons (e : WalkEvent) (h : Agree xs ys) : Agree (e :: xs) (e :: ys) := by
  unfold Agree at h ⊢
  cases e with
  | guarded site => rw [upTo, upTo, h]
  | offended o => rfl

theorem sites_eq (h : Agree xs ys) : sites xs = sites ys := by
  rw [← sites_upTo, h, sites_upTo]

theorem offence?_eq (h : Agree xs ys) : offence? xs = offence? ys := by
  rw [← offence?_upTo, h, offence?_upTo]

end Agree

end WalkEvent

/-! ## Pieces of a walk -/

namespace Protector

variable {p : Protector}

/-- What a loop that is met counts as. -/
def encounter (p : Protector) (l : LoopSeat) : WalkEvent :=
  match l.slot.parent? with
  | some parent => .offended (p.offence parent l.span)
  | none => .guarded (p.siteOf l)

/-- Whether the loops among these parts come in an order of their own: all of them, and in the order
in which they are written unless one is the body of a `with`. -/
structure Reordered (parts : List Part) : Prop where
  perm : (parts.filterMap Part.met?).Perm (parts.filterMap Part.loop?)
  eq : (∀ l ∈ parts.filterMap Part.loop?, l.slot ≠ .withBody) →
    parts.filterMap Part.met? = parts.filterMap Part.loop?

/-- Whether these are the parts of what is walked over, of whose loops the walk meets those up to
the first offence. -/
structure Meets (p : Protector) (parts : List Part) (t : Traced α) : Prop where
  events : WalkEvent.Agree t.events ((parts.filterMap Part.met?).map p.encounter)
  reordered : Reordered parts

namespace Reordered

variable {parts parts₁ parts₂ : List Part} {x : Part}

theorem nil : Reordered [] := ⟨.nil, fun _ => rfl⟩

theorem append (h₁ : Reordered parts₁) (h₂ : Reordered parts₂) : Reordered (parts₁ ++ parts₂) where
  perm := by
    rw [List.filterMap_append, List.filterMap_append]
    exact h₁.perm.append h₂.perm
  eq := by
    intro h
    rw [List.filterMap_append, List.forall_mem_append] at h
    rw [List.filterMap_append, List.filterMap_append, h₁.eq h.1, h₂.eq h.2]

/-- A part at which no loop is met, and which is none. -/
theorem skip (h : Reordered parts) (hmet : x.met? = none) (hloop : x.loop? = none) :
    Reordered (x :: parts) := by
  constructor
  · rw [List.filterMap_cons_none hmet, List.filterMap_cons_none hloop]
    exact h.perm
  · rw [List.filterMap_cons_none hmet, List.filterMap_cons_none hloop]
    exact h.eq

/-- A loop that is met where it stands. -/
theorem cons {l : LoopSeat} (h : Reordered parts) (hmet : x.met? = some l)
    (hloop : x.loop? = some l) : Reordered (x :: parts) := by
  constructor
  · rw [List.filterMap_cons_some hmet, List.filterMap_cons_some hloop]
    exact h.perm.cons l
  · rw [List.filterMap_cons_some hmet, List.filterMap_cons_some hloop, List.forall_mem_cons]
    exact fun hslot => congrArg (l :: ·) (h.eq hslot.2)

/-- What is behind a loop that is met where it stands. -/
theorem of_cons {l : LoopSeat} (h : Reordered (x :: parts)) (hmet : x.met? = some l)
    (hloop : x.loop? = some l) (hslot : l.slot ≠ .withBody) : Reordered parts := by
  obtain ⟨hperm, heq⟩ := h
  rw [List.filterMap_cons_some hmet, List.filterMap_cons_some hloop] at hperm heq
  rw [List.forall_mem_cons] at heq
  exact ⟨hperm.cons_inv, fun h => (List.cons.inj (heq ⟨hslot, h⟩)).2⟩

/-- A loop that is met in front of where it stands. -/
theorem moved {y : Part} (l : LoopSeat) (h₁ : Reordered parts₁) (h₂ : Reordered parts₂)
    (hx : x.met? = some l) (hx' : x.loop? = none) (hy : y.met? = none) (hy' : y.loop? = some l)
    (hl : l.slot = .withBody ∨ parts₁ = []) : Reordered (x :: (parts₁ ++ y :: parts₂)) := by
  have hmet : (x :: (parts₁ ++ y :: parts₂)).filterMap Part.met? =
      l :: (parts₁.filterMap Part.met? ++ parts₂.filterMap Part.met?) := by
    rw [List.filterMap_cons_some hx, List.filterMap_append, List.filterMap_cons_none hy]
  have hloop : (x :: (parts₁ ++ y :: parts₂)).filterMap Part.loop? =
      parts₁.filterMap Part.loop? ++ l :: parts₂.filterMap Part.loop? := by
    rw [List.filterMap_cons_none hx', List.filterMap_append, List.filterMap_cons_some hy']
  constructor
  · rw [hmet, hloop]
    exact List.perm_middle.symm.trans (h₁.perm.append (h₂.perm.cons l))
  · intro h
    rw [hloop, List.forall_mem_append, List.forall_mem_cons] at h
    rcases hl with hl | rfl
    · exact absurd hl h.2.1
    · rw [hmet, hloop, h₂.eq h.2.2]
      rfl

end Reordered

namespace Meets

variable {parts parts₁ parts₂ parts₃ : List Part} {t : Traced α} {x : Part}

theorem pure {a : α} : Meets p [] (Pure.pure a : Traced α) := ⟨rfl, .nil⟩

theorem bind {f : α → Traced β} (ht : Meets p parts₁ t) (hf : Meets p parts₂ (f t.value)) :
    Meets p (parts₁ ++ parts₂) (t >>= f) where
  events := by
    rw [Traced.events_bind, List.filterMap_append, List.map_append]
    exact ht.events.append hf.events
  reordered := ht.reordered.append hf.reordered

/-- The last of several walks, behind which their answers are put together. -/
theorem last {f : α → β} (ht : Meets p parts t) :
    Meets p parts (t >>= fun a => Pure.pure (f a)) where
  events := by
    rw [Traced.events_bind, Traced.events_pure, List.append_nil]
    exact ht.events
  reordered := ht.reordered

theorem assoc (h : Meets p (parts₁ ++ (parts₂ ++ parts₃)) t) :
    Meets p (parts₁ ++ parts₂ ++ parts₃) t := by
  rw [List.append_assoc]
  exact h

/-- A part at which no loop is met, and which is none. -/
theorem skip (h : Meets p parts t) (hmet : x.met? = none) (hloop : x.loop? = none) :
    Meets p (x :: parts) t where
  events := by
    rw [List.filterMap_cons_none hmet]
    exact h.events
  reordered := h.reordered.skip hmet hloop

theorem node (n : Node) (h : Meets p parts t) : Meets p (.node n :: parts) t := h.skip rfl rfl

/-- A loop that can be protected comes before what is inside it. -/
theorem loop {slot : Slot} {before : Option Stmt} {span : Span} {head : LoopHead} {body : Stmt}
    (hslot : slot.parent? = none) {f : Unit → Traced α} (h : Meets p parts (f ())) :
    Meets p (.stmt ⟨slot, before, .loop span head body⟩ :: parts)
      (Traced.emit (.guarded (p.site span head slot.context)) >>= f) := by
  have hmet : Part.met? (.stmt ⟨slot, before, .loop span head body⟩) =
      some ⟨slot, before, span, head, body⟩ := by
    simp [Part.met?, hslot]
  have hencounter : p.encounter ⟨slot, before, span, head, body⟩ =
      .guarded (p.site span head slot.context) := by
    simp [encounter, hslot, siteOf]
  refine ⟨?_, h.reordered.cons hmet rfl⟩
  rw [List.filterMap_cons_some hmet, List.map_cons, hencounter]
  exact h.events.cons _

/-- What is inside a loop that can be protected, without the walk. -/
theorem inside {before : Option Stmt} {span : Span} {head : LoopHead} {body : Stmt}
    (h : Meets p (.stmt ⟨.list, before, .loop span head body⟩ :: parts) t) : Reordered parts :=
  h.reordered.of_cons rfl rfl nofun

/-- At a statement whose body is an offending loop nothing behind it counts. -/
theorem offended (l : LoopSeat) {parent : LoopParent} {a : α} (h : Reordered (x :: parts))
    (hmet : x.met? = some l) (hparent : l.slot.parent? = some parent) :
    Meets p (x :: parts)
      (Traced.emit (.offended (p.offence parent l.span)) >>= fun _ => Pure.pure a) where
  events := by
    rw [List.filterMap_cons_some hmet, List.map_cons, encounter, hparent]
    rfl
  reordered := h

end Meets

/-! ## The walk -/

theorem met?_labeled {slot : Slot} {before : Option Stmt} {span : Span} {label : Label}
    {body : Stmt} (h : body.isLoop = false) :
    Part.met? (.stmt ⟨slot, before, .labeled span label body⟩) = none := by
  cases body <;> first | rfl | cases h

theorem met?_withObject {slot : Slot} {before : Option Stmt} {span : Span} {object : Node}
    {body : Stmt} (h : body.isLoop = false) :
    Part.met? (.stmt ⟨slot, before, .withObject span object body⟩) = none := by
  cases body <;> first | rfl | cases h

mutual

theorem protectNode_meets : (n : Node) → Meets p (.node n :: n.inside) (p.protectNode n)
  | .leaf _ _ => Meets.pure.node _
  | .unary _ _ arg => (protectNode_meets arg).last.node _
  | .binary _ _ left right => by
    have hl := protectNode_meets left
    have hr := protectNode_meets right
    exact (hl.bind hr.last).node _
  | .conditional _ test yes no => by
    have ht := protectNode_meets test
    have hy := protectNode_meets yes
    have hn := protectNode_meets no
    exact (ht.bind (hy.bind hn.last)).assoc.node _
  | .group _ _ items => (protectNodes_meets items).last.node _
  | .call _ _ callee args => by
    have hc := protectNode_meets callee
    have ha := protectNodes_meets args
    exact (hc.bind ha.last).node _
  | .function _ _ name params body => by
    have hn := protectNode?_meets name
    have hp := protectNodes_meets params
    have hb := protectBlock_meets body
    exact (hn.bind (hp.bind hb.last)).assoc.node _
  | .arrow _ _ params body => by
    have hp := protectNodes_meets params
    have hb := protectNode_meets body
    exact (hp.bind hb.last).node _
  | .class _ name members heritage => by
    have hn := protectNode?_meets name
    have hm := protectNodes_meets members
    have hh := protectNode?_meets heritage
    exact (hn.bind (hm.bind hh.last)).assoc.node _

theorem protectNodes_meets : (items : List Node) →
    Meets p (Node.insideAll items) (p.protectNodes items)
  | [] => .pure
  | n :: rest => (protectNode_meets n).bind (protectNodes_meets rest).last

theorem protectNode?_meets : (n : Option Node) → Meets p (Node.inside? n) (p.protectNode? n)
  | none => .pure
  | some n => (protectNode_meets n).last

theorem protectBlock_meets : (b : Block) → Meets p b.inside (p.protectBlock b)
  | .mk _ stmts => (protectStmts_meets .list rfl stmts none).last

theorem protectBlock?_meets : (b : Option Block) → Meets p (Block.inside? b) (p.protectBlock? b)
  | none => .pure
  | some b => (protectBlock_meets b).last

theorem protectStmts_meets (slot : Slot) (hslot : slot.parent? = none) : (stmts : List Stmt) →
    (before : Option Stmt) →
    Meets p (Stmt.insideAll slot before stmts) (p.protectStmts slot.context stmts)
  | [], _ => .pure
  | s :: rest, before => by
    have hs := protectStmt_meets slot s before fun _ => hslot
    exact hs.bind (protectStmts_meets slot hslot rest (some s)).last

/-- A loop is walked over as such only in a slot in which it can be protected. -/
theorem protectStmt_meets (slot : Slot) : (s : Stmt) → (before : Option Stmt) →
    (s.isLoop = true → slot.parent? = none) →
    Meets p (.stmt ⟨slot, before, s⟩ :: s.inside) (p.protectStmt slot.context s)
  | .empty _, _, _ | .debugger _, _, _ | .jump _ _ _, _, _ => Meets.pure.skip rfl rfl
  | .expression _ n, _, _ | .declaration n, _, _ | .throw _ n, _, _ =>
    (protectNode_meets n).last.skip rfl rfl
  | .block b, _, _ => (protectBlock_meets b).last.skip rfl rfl
  | .return _ value, _, _ => (protectNode?_meets value).last.skip rfl rfl
  | .labeled span label body, _, _ => by
    cases hl : body.isLoop with
    | false =>
      have hb := protectStmt_meets .labelBody body none (by simp [hl])
      rw [protectStmt_labeled _ _ _ hl]
      exact hb.last.skip (met?_labeled hl) rfl
    | true =>
      have hb := protectStmt_meets .list body none fun _ => rfl
      obtain ⟨loopSpan, head, loopBody, rfl⟩ := Stmt.isLoop_iff.1 hl
      exact .offended ⟨.labelBody, none, loopSpan, head, loopBody⟩
        (.moved _ .nil hb.inside rfl rfl rfl rfl (.inr rfl)) rfl rfl
  | .withObject span object body, _, _ => by
    have hn := protectNode_meets object
    cases hl : body.isLoop with
    | false =>
      have hb := protectStmt_meets .withBody body none (by simp [hl])
      rw [protectStmt_withObject _ _ _ hl]
      exact (hn.bind hb.last).skip (met?_withObject hl) rfl
    | true =>
      have hb := protectStmt_meets .list body none fun _ => rfl
      obtain ⟨loopSpan, head, loopBody, rfl⟩ := Stmt.isLoop_iff.1 hl
      exact .offended ⟨.withBody, none, loopSpan, head, loopBody⟩
        (.moved _ hn.reordered hb.inside rfl rfl rfl rfl (.inl rfl)) rfl rfl
  | .branch _ test yes no, _, _ => by
    have ht := protectNode_meets test
    have hy := protectStmt_meets .arm yes none fun _ => rfl
    have hn := protectArm?_meets no
    exact (ht.bind (hy.bind hn.last)).assoc.skip rfl rfl
  | .switch _ subject cases, _, _ => by
    have hs := protectNode_meets subject
    have hc := protectCases_meets cases
    exact (hs.bind hc.last).skip rfl rfl
  | .try _ body handler finalizer, _, _ => by
    have hb := protectBlock_meets body
    have hh := protectHandler?_meets handler
    have hf := protectBlock?_meets finalizer
    exact (hb.bind (hh.bind hf.last)).assoc.skip rfl rfl
  | .loop span head body, _, hslot => by
    have hh := protectHead_meets head
    have hbody := protectStmt_meets .loopBody body none fun _ => rfl
    have hlist : Meets p (.stmt ⟨.loopBody, none, body⟩ :: body.inside)
        (p.protectStmts .sequence body.unbraced) := by
      cases body with
      | block b =>
        obtain ⟨_, stmts⟩ := b
        exact (protectStmts_meets .list rfl stmts none).skip rfl rfl
      | _ =>
        rw [Stmt.unbraced, protectStmts_singleton]
        · exact hbody.last
        · rintro _ _ ⟨⟩
    rw [protectStmt_loop]
    exact (hh.bind hlist.last).loop (hslot rfl)

theorem protectArm?_meets : (s : Option Stmt) → Meets p (Stmt.inside? .arm s) (p.protectArm? s)
  | none => .pure
  | some s => (protectStmt_meets .arm s none fun _ => rfl).last

theorem protectHead_meets : (h : LoopHead) → Meets p h.inside (p.protectHead h)
  | .while test | .doWhile test => (protectNode_meets test).last
  | .for init test update => by
    have hi := protectNode?_meets init
    have ht := protectNode?_meets test
    have hu := protectNode?_meets update
    exact (hi.bind (ht.bind hu.last)).assoc
  | .forIn left right | .forOf _ left right =>
    (protectNode_meets left).bind (protectNode_meets right).last

theorem protectCases_meets : (cases : List Case) →
    Meets p (Case.insideAll cases) (p.protectCases cases)
  | [] => .pure
  | .mk _ test body :: rest => by
    have ht := protectNode?_meets test
    have hb := protectStmts_meets .clause rfl body none
    have hc := protectCases_meets rest
    exact (ht.bind (hb.bind hc.last)).assoc

theorem protectHandler?_meets : (h : Option Handler) →
    Meets p (Handler.inside? h) (p.protectHandler? h)
  | none => .pure
  | some (.mk _ param body) => (protectNode?_meets param).bind (protectBlock_meets body).last

end

theorem protectItems_meets : (items : List Item) → (before : Option Stmt) →
    Meets p (Item.parts before items) (p.protectItems items)
  | [], _ => .pure
  | .stmt s :: rest, before => by
    have hs := protectStmt_meets (p := p) .list s before fun _ => rfl
    exact hs.last.bind (protectItems_meets rest (some s)).last
  | .exportDecl _ n :: rest, _ | .exportValue _ n :: rest, _ | .exportDefault _ n :: rest, _ =>
    (protectNode_meets n).last.bind (protectItems_meets rest none).last
  | .imports .. :: rest, _ | .exportList .. :: rest, _ | .exportAll .. :: rest, _ =>
    Meets.pure.bind (protectItems_meets rest none).last

/-- What a walk over a script or module meets up to the first offence. -/
theorem protectProgram_meets (program : Program) :
    Meets p program.parts (p.protectProgram program) :=
  (protectItems_meets program.items none).last

/-! ## Offenders -/

/-- Loops that can be protected are met with their sites. -/
theorem map_encounter {ls : List LoopSeat} (h : ∀ l ∈ ls, l.slot.parent? = none) :
    ls.map p.encounter = (ls.map p.siteOf).map .guarded := by
  rw [List.map_map]
  refine List.map_congr_left fun l hl => ?_
  simp [encounter, h l hl]

theorem offence?_encounter_eq_none_iff {ls : List LoopSeat} :
    WalkEvent.offence? (ls.map p.encounter) = none ↔ ∀ l ∈ ls, l.slot.parent? = none := by
  rw [WalkEvent.offence?_eq_none_iff, List.forall_mem_map]
  refine forall₂_congr fun l _ => ?_
  cases h : l.slot.parent? with
  | none => simp [encounter, h, WalkEvent.IsGuarded]
  | some parent => simp [encounter, h, WalkEvent.IsGuarded]

/-- A walk meets an offence exactly if there is an offender. -/
theorem walk_offence?_eq_none_iff {program : Program} :
    WalkEvent.offence? (p.protectProgram program).events = none ↔
      ∀ l ∈ program.loops, l.slot.parent? = none := by
  have hmeets := p.protectProgram_meets program
  rw [hmeets.events.offence?_eq, offence?_encounter_eq_none_iff]
  exact forall_congr' fun l => imp_congr_left hmeets.reordered.perm.mem_iff

/-- What the loops up to the first offender count as. -/
theorem walk_of_first_offender {program : Program} {before behind : List LoopSeat} {l : LoopSeat}
    {parent : LoopParent} (hmet : program.loopsMet = before ++ l :: behind)
    (hbefore : ∀ b ∈ before, b.slot.parent? = none) (hl : l.slot.parent? = some parent) :
    WalkEvent.sites (p.protectProgram program).events = before.map p.siteOf ∧
      WalkEvent.offence? (p.protectProgram program).events = some (p.offence parent l.span) := by
  have hagree := (p.protectProgram_meets program).events
  have hnone := WalkEvent.offence?_eq_none_iff.2 (by
    intro e he
    obtain ⟨site, -, rfl⟩ := List.mem_map.1 he
    trivial : ∀ e ∈ (before.map p.siteOf).map WalkEvent.guarded, e.IsGuarded)
  have hencounters : (program.parts.filterMap Part.met?).map p.encounter =
      (before.map p.siteOf).map .guarded ++
        .offended (p.offence parent l.span) :: behind.map p.encounter := by
    show program.loopsMet.map p.encounter = _
    rw [hmet, List.map_append, List.map_cons, map_encounter hbefore]
    simp [encounter, hl]
  rw [hagree.sites_eq, hagree.offence?_eq, hencounters, WalkEvent.sites_append,
    WalkEvent.offence?_append, hnone, WalkEvent.sites_map_guarded]
  exact ⟨List.append_nil _, rfl⟩

/-- Without an offender all loops are met with their sites, in the order in which they stand. -/
theorem sites_walk_of_no_offender {program : Program}
    (h : ∀ l ∈ program.loops, l.slot.parent? = none) :
    WalkEvent.sites (p.protectProgram program).events = program.loops.map p.siteOf := by
  have hmeets := p.protectProgram_meets program
  have heq : program.parts.filterMap Part.met? = program.loops := by
    refine hmeets.reordered.eq fun l hl hslot => ?_
    have hparent := h l hl
    rw [hslot] at hparent
    cases hparent
  rw [hmeets.events.sites_eq, heq, map_encounter h, WalkEvent.sites_map_guarded]

end Protector

/-! ## Texts -/

namespace Transformer

theorem run_of_offence {t : Transformer} {p : ParsedText} {o : Offence}
    (hp : ParsedText.ofSource t.code.toArray = .ok p)
    (ho : WalkEvent.offence? (t.walk p).events = some o) :
    t.run = (.error (.unsupportedParent t.file o), t.walkEvents p) := by
  simp [run, hp, ho]

theorem run_of_no_offence {t : Transformer} {p : ParsedText}
    (hp : ParsedText.ofSource t.code.toArray = .ok p)
    (ho : WalkEvent.offence? (t.walk p).events = none) :
    t.run = (.ok (t.output p), (t.output p).loops.map .guarded ++
      [.instrumented t.file (t.output p).loops.length]) := by
  simp [run, hp, ho, walkEvents, output]

/-- A text fails exactly if it has an offender. The error names the one that is met first, and what
is logged are the loops that are met before it; a walk that stops does the same. Without an offender
all loops are logged in the order in which they stand, and then their number. -/
theorem run_stops_at_first_offender (t : Transformer) (p : ParsedText)
    (hp : ParsedText.ofSource t.code.toArray = .ok p) :
    p.program.loopsMet.Perm p.program.loops ∧
    ((∀ l ∈ p.program.loops, l.slot ≠ .withBody) → p.program.loopsMet = p.program.loops) ∧
    ((∃ file o, t.run.1 = .error (.unsupportedParent file o)) ↔
      ∃ l ∈ p.program.loops, l.slot.parent?.isSome = true) ∧
    (∀ before l behind parent, p.program.loopsMet = before ++ l :: behind →
      (∀ b ∈ before, b.slot.parent? = none) → l.slot.parent? = some parent →
      t.run = (.error (.unsupportedParent t.file ⟨parent, Position.of t.code l.span.lo⟩),
          before.map fun b => .guarded (t.protector.siteOf b)) ∧
        t.protector.visitProgram p.program =
          ⟨before.map t.protector.siteOf, some ⟨parent, Position.of t.code l.span.lo⟩⟩) ∧
    ((∀ l ∈ p.program.loops, l.slot.parent? = none) →
      ∃ out, out.loops = p.program.loops.map t.protector.siteOf ∧
        t.run = (.ok out, out.loops.map .guarded ++ [.instrumented t.file out.loops.length]) ∧
        t.protector.visitProgram p.program = ⟨out.loops, none⟩) := by
  have hreordered := (t.protector.protectProgram_meets p.program).reordered
  -- An error names an offence that the walk met; none is met exactly when no loop offends.
  have hnone : WalkEvent.offence? (t.walk p).events = none ↔
      ∀ l ∈ p.program.loops, l.slot.parent? = none := Protector.walk_offence?_eq_none_iff
  refine ⟨hreordered.perm, hreordered.eq, ⟨?_, ?_⟩, ?_, ?_⟩
  · rintro ⟨file, o, herror⟩
    by_contra hall
    have hok : ∀ l ∈ p.program.loops, l.slot.parent? = none := by simpa using hall
    rw [run_of_no_offence hp (hnone.2 hok)] at herror
    cases herror
  · rintro ⟨l, hl, hparent⟩
    cases ho : WalkEvent.offence? (t.walk p).events with
    | some o => exact ⟨t.file, o, run_eq_error_of_offence hp ho⟩
    | none =>
      rw [hnone.1 ho l hl] at hparent
      cases hparent
  · intro before l behind parent hmet hbefore hl
    obtain ⟨hsites, ho⟩ := t.protector.walk_of_first_offender hmet hbefore hl
    refine ⟨?_, ?_⟩
    · rw [run_of_offence hp ho, walkEvents, walk, hsites, List.map_map]
      rfl
    · rw [Protector.visitProgram_eq, hsites, ho]
      rfl
  · intro hok
    have hsites := t.protector.sites_walk_of_no_offender hok
    have ho : WalkEvent.offence? (t.protector.protectProgram p.program).events = none := hnone.2 hok
    refine ⟨t.output p, hsites, run_of_no_offence hp ho, ?_⟩
    rw [Protector.visitProgram_eq, ho]
    rfl

/-- A loop behind a label in the object of a `with` whose body is a loop. -/
def withAroundLabel : Transformer where
  guardAlias := ⟨"g", []⟩
  file := "a.js"
  code := "while(a){}with(function(){l:while(b){}})while(c){}".toList
  inputMap := none
  emitsSourceMap := false

/-- The slot and the position of a loop. -/
def whereabouts (l : LoopSeat) : Slot × Position :=
  (l.slot, withAroundLabel.protector.place l.span.lo)

theorem withAroundLabel_read : ∃ p, ParsedText.ofSource withAroundLabel.code.toArray = .ok p ∧
    p.program.loops.map whereabouts =
      [(.list, ⟨1, 0⟩), (.labelBody, ⟨1, 28⟩), (.withBody, ⟨1, 40⟩)] ∧
    p.program.loopsMet.map whereabouts =
      [(.list, ⟨1, 0⟩), (.withBody, ⟨1, 40⟩), (.labelBody, ⟨1, 28⟩)] := by
  have hpasses : ParsedText.passes withAroundLabel.code.toArray fun p =>
      p.program.loops.map whereabouts ==
          [(.list, ⟨1, 0⟩), (.labelBody, ⟨1, 28⟩), (.withBody, ⟨1, 40⟩)] &&
        p.program.loopsMet.map whereabouts ==
          [(.list, ⟨1, 0⟩), (.withBody, ⟨1, 40⟩), (.labelBody, ⟨1, 28⟩)] := by
    decide +kernel
  obtain ⟨p, hp, htest⟩ := ParsedText.exists_of_passes hpasses
  rw [Bool.and_eq_true, beq_iff_eq, beq_iff_eq] at htest
  exact ⟨p, hp, htest⟩

/-- A loop in a list, and an offender behind it. -/
theorem exists_offender {ls : List LoopSeat} {slot : Slot} {parent : LoopParent}
    {at₁ at₂ : Position} {more : List (Slot × Position)}
    (h : ls.map whereabouts = (.list, at₁) :: (slot, at₂) :: more)
    (hslot : slot.parent? = some parent) :
    ∃ first l behind, ls = [first] ++ l :: behind ∧ (∀ b ∈ [first], b.slot.parent? = none) ∧
      l.slot.parent? = some parent ∧ Position.of withAroundLabel.code first.span.lo = at₁ ∧
      Position.of withAroundLabel.code l.span.lo = at₂ := by
  obtain ⟨first, rest, rfl, hfirst, hrest⟩ := List.map_eq_cons_iff.1 h
  obtain ⟨l, behind, rfl, hl, -⟩ := List.map_eq_cons_iff.1 hrest
  obtain ⟨hfirst, hat₁⟩ := Prod.mk.inj hfirst
  obtain ⟨hl, hat₂⟩ := Prod.mk.inj hl
  refine ⟨first, l, behind, rfl, ?_, hl ▸ hslot, hat₁, hat₂⟩
  intro b hb
  rw [List.mem_singleton.1 hb, hfirst]
  rfl

/-- The `with` is blamed, and one loop is logged. -/
theorem withAroundLabel_rejected : ∃ p, ParsedText.ofSource withAroundLabel.code.toArray = .ok p ∧
    ∃ site, site.generated = ⟨1, 0⟩ ∧
      withAroundLabel.run =
        (.error (.unsupportedParent "a.js" ⟨.withObject, ⟨1, 40⟩⟩), [.guarded site]) ∧
      withAroundLabel.protector.visitProgram p.program =
        ⟨[site], some ⟨.withObject, ⟨1, 40⟩⟩⟩ := by
  obtain ⟨p, hp, -, hmet⟩ := withAroundLabel_read
  obtain ⟨first, l, behind, hmet, hfirst, hl, hat₁, hat₂⟩ := exists_offender hmet rfl
  obtain ⟨-, -, -, hrejects, -⟩ := run_stops_at_first_offender withAroundLabel p hp
  obtain ⟨hrun, hvisit⟩ := hrejects [first] l behind _ hmet hfirst hl
  rw [hat₂] at hrun hvisit
  exact ⟨p, hp, withAroundLabel.protector.siteOf first, hat₁, hrun, hvisit⟩

/-- The loop behind the label is the first offender in the order in which the loops stand, but the
error names the `with`. -/
theorem withAroundLabel_blames_with :
    ∃ p before l behind, ParsedText.ofSource withAroundLabel.code.toArray = .ok p ∧
      p.program.loops = before ++ l :: behind ∧ (∀ b ∈ before, b.slot.parent? = none) ∧
      l.slot.parent? = some .labeled ∧ Position.of withAroundLabel.code l.span.lo = ⟨1, 28⟩ ∧
      withAroundLabel.run.1 = .error (.unsupportedParent "a.js" ⟨.withObject, ⟨1, 40⟩⟩) := by
  obtain ⟨p, hp, hloops, hmet⟩ := withAroundLabel_read
  obtain ⟨first, l, behind, hloops, hfirst, hl, -, hat⟩ := exists_offender hloops rfl
  obtain ⟨first', l', behind', hmet, hfirst', hl', -, hat'⟩ := exists_offender hmet rfl
  obtain ⟨-, ho⟩ := withAroundLabel.protector.walk_of_first_offender hmet hfirst' hl'
  have hrun := run_eq_error_of_offence hp ho
  have hoffence : withAroundLabel.protector.offence .withObject l'.span =
      ⟨.withObject, ⟨1, 40⟩⟩ := congrArg (Offence.mk .withObject) hat'
  rw [hoffence] at hrun
  exact ⟨p, [first], l, behind, hp, hloops, hfirst, hl, hat, hrun⟩

end Transformer

end LoopGuard
