import LoopGuard.Proofs.Loop.Order
import LoopGuard.Proofs.Loop.Quiet
import LoopGuard.Proofs.Loop.Rejection

/-!
# What a protected text does

Results:
* `Transformer.walk_preserves_runs`: a text does the same before and after the walk as long as no
  check answers something true, and a check that does leaves its own loop.
-/

namespace LoopGuard

namespace Transformer

/-- As long as the checks of a text answer nothing true, it does what it did before the walk, and
ends as it did. A check that answers something true is the first thing in an iteration of the
innermost loop, and the next thing is that this loop, and no other one, is left without an abrupt
ending. -/
theorem walk_preserves_runs (V : Type) [Values V] (t : Transformer) (p : ParsedText)
    (hp : ParsedText.ofSource t.code.toArray = .ok p)
    (ho : WalkEvent.offence? (t.walk p).events = none) :
    (∀ (τ : List (Event V)) (r : Option (Ending V)), p.program.run.runs τ r ↔
      ∃ τ', (t.walk p).value.run.runs τ' r ∧ (∀ e ∈ τ', e.IsQuiet) ∧
        τ'.filterMap Event.erased? = τ) ∧
    ∀ (τ₁ τ₂ : List (Event V)) (key : String) (answer : Except V V) (r : Option (Ending V)),
      (t.walk p).value.run.runs (τ₁ ++ .guarded key answer :: τ₂) r → Event.Trips answer →
      ∃ loop outer, activeLoops τ₁ = loop :: outer ∧ key = (t.protector.keyAt loop).text ∧
        τ₁.getLast? = some (.iterated loop) ∧
        ((τ₂ = [] ∧ r = none) ∨ ∃ τ₃, τ₂ = .exited loop (.ok ()) :: τ₃ ∧
          activeLoops (τ₁ ++ [.guarded key answer, .exited loop (.ok ())]) = outer) := by
  have hw := ParsedText.isWritten_ofSource hp
  have hshows := Protector.shows_protectProgram V hw ho
  refine ⟨fun τ r => ?_, fun τ₁ τ₂ key answer r hr ha => ?_⟩
  · rw [← hshows]
    exact Proc.runs_seen
  · obtain ⟨w, hpath, hend⟩ := Protector.leads_protectProgram V hw ho _ r hr
    obtain ⟨loop, outer, hactive, hlast, hkey⟩ := hpath.before_guarded
    refine ⟨loop, outer, hactive, hkey, hlast, ?_⟩
    rcases hpath.behind_tripped ha with ⟨rfl, hphase⟩ | ⟨loop', outer', τ₃, hactive', rfl⟩
    · left
      cases r with
      | none => exact ⟨rfl, rfl⟩
      | some a =>
        rw [hend a rfl] at hphase
        cases hphase
    · right
      rw [hactive] at hactive'
      cases hactive'
      refine ⟨τ₃, rfl, ?_⟩
      rw [activeLoops, List.foldl_append, show τ₁.foldl Event.loops [] = _ from hactive]
      rfl

end Transformer

/-! ## An endless loop -/

section Endless

variable {p : Protector} {span : Span}

/-- A round of a loop that consists of nothing but its check. -/
theorem Stmt.runs_tripped (inner : Proc (Event Bool) Unit) (a : Alias) (rest : Run Bool Unit) :
    (Stmt.iteration span [] ((Stmt.guard a (p.keyAt span)).run inner [] >>= fun _ => rest)).run.runs
      [.iterated span, .guarded (p.keyAt span).text (.ok true)] (some (.ok false)) := by
  have hcheck : ((Stmt.guard a (p.keyAt span)).run inner []).run.runs
      [.guarded (p.keyAt span).text (.ok true)] (some (.error (.jumped .break none))) := by
    rw [Stmt.run_guard]
    refine .inr ⟨.ok true, Run.runs_emit_bind ?_⟩
    rw [Run.ofAnswer, pure_bind]
    exact Run.runs_ofEnding
  exact Run.runs_emit_bind (Run.runs_handle (Run.runs_bind_of_error hcheck) Run.runs_ofEnding)

/-- A loop that goes on for ever by itself is left by its check. -/
theorem Protector.runs_endless {program : Program} {bodySpan : Span}
    (h : program.items = [.stmt (.loop span (.for none none none) (.empty bodySpan))]) :
    (p.protectProgram program).value.run.runs
      ([.reset (p.optionsAt span), .entered span, .iterated span] ++
        .guarded (p.optionsAt span).key (.ok true) :: [.exited span (.ok ())])
      (some (.ok () : Ending Bool)) := by
  have hitems : (p.protectProgram program).value.items =
      [.stmt (.reset p.guardAlias (p.optionsAt span)), .stmt (.loop span (.for none none none)
        (.block (.mk .synthetic [.guard p.guardAlias (p.keyAt span), .empty bodySpan])))] := by
    simp [protectProgram, h, protectItems, protectItem, protectStmt, protectHead, protectNode?,
      guarded, sequenced]
  have hrounds (inner : Proc (Event Bool) Unit) (rest : Run Bool Unit) :
      ((LoopHead.for none none none).run inner (Stmt.iteration span []
        ((Stmt.guard p.guardAlias (p.keyAt span)).run inner [] >>= fun _ => rest))).run.runs
      [.iterated span, .guarded (p.keyAt span).text (.ok true)] (some (.ok ())) := by
    simp only [LoopHead.run, Run.evaluate?, Run.holds?, pure_bind, if_true]
    refine .inr ⟨1, Run.runs_bind_nil (a := false) ?_ Run.runs_ofEnding⟩
    exact Run.runs_bind_nil (Stmt.runs_tripped inner _ rest) Run.runs_ofEnding
  have hloop (inner : Proc (Event Bool) Unit) (rest : Run Bool Unit) :
      (Stmt.runLoop inner span (.for none none none) (Stmt.iteration span []
        ((Stmt.guard p.guardAlias (p.keyAt span)).run inner [] >>= fun _ => rest))).run.runs
      (.entered span :: ([.iterated span, .guarded (p.keyAt span).text (.ok true)] ++
        [.exited span (.ok ())])) (some (.ok ())) :=
    Run.runs_emit_bind (Run.runs_handle (hrounds inner rest) (Run.runs_emit_bind Run.runs_ofEnding))
  refine .inr ⟨0, .inr ⟨.ok (), _, [], ?_, ?_, List.append_nil _⟩⟩
  · rw [hitems, Item.runAll, Stmt.run_reset, Item.runAll]
    exact Run.runs_emit_bind (Run.runs_bind_nil (hloop _ _) Run.runs_ofEnding)
  · exact .inr ⟨(), [], [], ⟨rfl, fun _ _ => rfl⟩, Run.runs_ofEnding, rfl⟩

end Endless

namespace Transformer

/-- A loop that goes on for ever by itself. -/
def endlessLoop : Transformer where
  guardAlias := ⟨"g", []⟩
  file := "a.js"
  code := "for(;;);".toList
  inputMap := none
  emitsSourceMap := false

/-- Whether these are the items of that text. -/
def isEndlessLoop : List Item → Bool
  | [.stmt (.loop (.source 0 8) (.for none none none) (.empty (.source 7 8)))] => true
  | _ => false

theorem endlessLoop_read : ∃ p, ParsedText.ofSource endlessLoop.code.toArray = .ok p ∧
    WalkEvent.offence? (endlessLoop.walk p).events = none ∧
    p.program.items =
      [.stmt (.loop (.source 0 8) (.for none none none) (.empty (.source 7 8)))] := by
  have hpasses : ParsedText.passes endlessLoop.code.toArray fun p =>
      (WalkEvent.offence? (endlessLoop.walk p).events).isNone && isEndlessLoop p.program.items := by
    decide +kernel
  obtain ⟨p, hp, htest⟩ := ParsedText.exists_of_passes hpasses
  rw [Bool.and_eq_true, Option.isNone_iff_eq_none] at htest
  refine ⟨p, hp, htest.1, ?_⟩
  have hitems := htest.2
  unfold isEndlessLoop at hitems
  split at hitems
  · assumption
  · cases hitems

theorem optionsAt_endlessLoop :
    endlessLoop.protector.optionsAt (.source 0 8) = ⟨"a.js:1:0", "a.js", 1, 0⟩ := by
  decide +kernel

/-- The loop is left by its check. -/
theorem endlessLoop_left : ∃ p, ParsedText.ofSource endlessLoop.code.toArray = .ok p ∧
    ∃ loop τ₁ τ₂, (endlessLoop.walk p).value.run.runs
        (τ₁ ++ .guarded "a.js:1:0" (.ok true) :: .exited loop (.ok ()) :: τ₂)
        (some (.ok () : Ending Bool)) ∧
      activeLoops τ₁ = [loop] := by
  obtain ⟨p, hp, ho, hitems⟩ := endlessLoop_read
  have hruns := endlessLoop.protector.runs_endless hitems
  rw [optionsAt_endlessLoop] at hruns
  obtain ⟨loop, outer, hactive, -, -, ⟨⟨⟩, -⟩ | ⟨τ₂, hexited, hafter⟩⟩ :=
    (walk_preserves_runs Bool endlessLoop p hp ho).2 _ _ _ _ _ hruns ⟨true, rfl, rfl⟩
  cases hactive
  exact ⟨p, hp, _, _, τ₂, hexited ▸ hruns, rfl⟩

end Transformer

/-- The loop that goes on for ever by itself, as a text of any file. -/
def endlessText (file : String) : TransformOptions where
  guardAlias := "g"
  file := file
  code := "for(;;);"

/-- Where the loop is. -/
def endlessText.site (file : String) : LoopSite :=
  .of file (.iterating .indexed) .sequence ⟨1, 0⟩ ⟨1, 0⟩

/-- The same text once it has been checked. -/
def Transformer.endlessIn (file : String) : Transformer := { Transformer.endlessLoop with file }

theorem endlessText_found (file : String) :
    ∃ out, (transform (endlessText file)).1 = .ok out ∧ endlessText.site file ∈ out.loops := by
  obtain ⟨p, hp, -, hitems⟩ := Transformer.endlessLoop_read
  have halias : Alias.ofString? "g" = some ⟨"g", []⟩ := by decide +kernel
  have hcode : withoutMark "for(;;);".toList = Transformer.endlessLoop.code := by decide +kernel
  have hplace : Position.of Transformer.endlessLoop.code (Span.source 0 8).lo = ⟨1, 0⟩ := by
    decide +kernel
  have ht : Transformer.of (endlessText file) = .ok (.endlessIn file) := by
    simp only [Transformer.of, endlessText, halias, hcode]
    rfl
  have hevents : ((Transformer.endlessIn file).walk p).events =
      [.guarded (endlessText.site file)] := by
    simp only [Transformer.walk, Protector.protectProgram, hitems, Protector.protectItems,
      Protector.protectItem, Protector.protectStmt, Protector.protectHead, Protector.protectNode?,
      Protector.site, Transformer.protector, Transformer.endlessIn, hplace, Traced.events_bind,
      Traced.events_emit, Traced.events_pure]
    rfl
  have hp' : ParsedText.ofSource (Transformer.endlessIn file).code.toArray = .ok p := hp
  have ho : WalkEvent.offence? ((Transformer.endlessIn file).walk p).events = none := by
    rw [hevents]
    rfl
  refine ⟨(Transformer.endlessIn file).output p, ?_, ?_⟩
  · rw [transform, ht]
    exact congrArg Prod.fst (Transformer.run_of_no_offence hp' ho)
  · show endlessText.site file ∈ WalkEvent.sites ((Transformer.endlessIn file).walk p).events
    rw [hevents]
    exact List.mem_singleton.2 rfl

end LoopGuard
