import LoopGuard.Proofs.Loop.Keys
import LoopGuard.Proofs.Loop.Refinement
import LoopGuard.Proofs.Registry.Replay

/-!
# Units on one registry

Texts that are instrumented one by one may report to one registry. A key can be read back to the
name of the file it was made from, whatever colons and digits are in that name; so what is
remembered of the loops of one file depends on no call of another one, and forgetting a file takes
away what is remembered of its own loops and nothing else.

Results:
* `UnitLoop.exists_key`: the loops of a file have keys of that file.
* `SharedRun.birth?_file`: what is remembered under a key is described with the file of the key.
* `SharedRun.remembers_without`: what is remembered under a key without the calls of another file.
* `SharedRun.units_isolated`: files do not disturb each other.
-/

namespace LoopGuard

open History

/-! ## Calls of units -/

/-- A loop of a text that was instrumented. -/
structure UnitLoop where
  options : TransformOptions
  site : LoopSite
  found : ∃ out, (transform options).1 = .ok out ∧ site ∈ out.loops

namespace UnitLoop

/-- The name of the text's file. -/
def file (u : UnitLoop) : String := u.options.file

theorem exists_key (u : UnitLoop) :
    (∃ p, u.site.key = LoopKey.of u.file p) ∧ u.site.file = u.file := by
  obtain ⟨out, hout, hsite⟩ := u.found
  obtain ⟨t, ht, hrun⟩ := Transformer.run_of_transform hout
  have hfile : t.file = u.file := (Transformer.taken_of ht).1
  obtain ⟨p, -, hloops⟩ := Transformer.loops_of_run hrun
  rw [hloops] at hsite
  obtain ⟨l, -, hl⟩ := List.mem_map.1 hsite
  rw [← hl, Transformer.key_siteOf, hfile]
  exact ⟨⟨_, rfl⟩, hfile⟩

end UnitLoop

/-- A call on a registry that units share. -/
inductive SharedCall where
  /-- A loop of a unit starts. -/
  | reset (loop : UnitLoop)
  /-- A loop of a unit asks whether it may go on. -/
  | guard (loop : UnitLoop)
  /-- The loops of a file are forgotten. -/
  | forget (file : String)
  /-- Something else that the host does, which resets nothing. -/
  | host (call : HostCall) (noReset : ∀ o, call ≠ .reset o)

namespace SharedCall

/-- What is asked of the registry. -/
def call : SharedCall → HostCall
  | reset loop => .reset loop.site.resetOptions
  | guard loop => .guard loop.site.key.text
  | forget file => .forgetFile file
  | host call _ => call

/-- The file that the call is made for. -/
def file? : SharedCall → Option String
  | reset loop | guard loop => some loop.file
  | forget file => some file
  | host _ _ => none

/-- Whether a loop of a file asks whether it may go on. -/
def isGuardOf (file : String) : SharedCall → Bool
  | guard loop => loop.file == file
  | _ => false

/-- A key of a file is reset by calls of this file alone, and with its name. -/
theorem file_of_resetOf? {c : SharedCall} {now : Instant} {file : String} {p : Position}
    {o : ResetOptions} (h : TimedCall.resetOf? ⟨now, c.call⟩ (LoopKey.of file p).text = some o) :
    c.file? = some file ∧ o.file = file := by
  cases c with
  | reset loop =>
    unfold TimedCall.resetOf? call at h
    dsimp only at h
    split at h
    · next hkey =>
      obtain ⟨⟨q, hq⟩, hfile⟩ := loop.exists_key
      have hkey : loop.site.key.text = (LoopKey.of file p).text := hkey
      rw [hq] at hkey
      have hsame : loop.file = file := (LoopKey.of_inj.1 (congrArg LoopKey.mk hkey)).1
      rw [← Option.some.inj h]
      exact ⟨congrArg some hsame, hfile.trans hsame⟩
    · cases h
  | guard | forget => cases h
  | host call noReset =>
    unfold TimedCall.resetOf? at h
    dsimp only [SharedCall.call] at h
    split at h
    · next o' => exact absurd rfl (noReset o')
    · cases h

end SharedCall

/-- The calls on a registry that units share, each with what the clock reads, the latest one
first. -/
abbrev SharedRun := List (Instant × SharedCall)

namespace SharedRun

variable {l : LoopLimits} {file other : String} {p : Position} {run : SharedRun}

/-- The calls as the registry sees them. -/
def history (run : SharedRun) : History := run.map fun (now, c) => ⟨now, c.call⟩

/-- The calls that are not made for a file. -/
def without (file : String) (run : SharedRun) : SharedRun :=
  run.filter fun (_, c) => c.file? != some file

/-- What the loops of a file are answered, the latest answer first. -/
def guardAnswers (l : LoopLimits) (file : String) : SharedRun → List HostAnswer
  | [] => []
  | (now, c) :: before =>
    if c.isGuardOf file then answer l ⟨now, c.call⟩ (history before) :: guardAnswers l file before
    else guardAnswers l file before

theorem without_cons (file : String) (now : Instant) (c : SharedCall) (before : SharedRun) :
    without file ((now, c) :: before) =
      if c.file? = some file then without file before else (now, c) :: without file before := by
  unfold without
  rw [List.filter_cons]
  by_cases h : c.file? = some file <;> simp [h]

/-! ## What is remembered under a key -/

/-- What is remembered under a key is described with the file of the key. -/
theorem birth?_file {o : ResetOptions}
    (h : birth? l (LoopKey.of file p).text run.history = some o) : o.file = file := by
  induction run with
  | nil => cases h
  | cons timed before ih =>
    obtain ⟨now, c⟩ := timed
    change birth? l _ (⟨now, c.call⟩ :: history before) = some o at h
    cases hreset : TimedCall.resetOf? ⟨now, c.call⟩ (LoopKey.of file p).text with
    | some o' =>
      rw [birth?_cons_of_reset hreset] at h
      cases hbirth : birth? l (LoopKey.of file p).text (history before) with
      | none =>
        rw [hbirth] at h
        cases h
        exact (SharedCall.file_of_resetOf? hreset).2
      | some b =>
        rw [hbirth] at h
        cases h
        exact ih hbirth
    | none => exact ih ((birth?_cons_of_not_reset hreset).1 h).1

/-- Forgetting a file removes nothing that has been remembered under a key of another file. -/
theorem not_removes_forgetFile (h : file ≠ other) (now : Instant) :
    ¬ Removes l (LoopKey.of file p).text ⟨now, .forgetFile other⟩ run.history := by
  rintro ⟨o, hbirth, hremoves⟩
  have hother : o.file = other := by simpa [removes] using hremoves
  exact h ((birth?_file hbirth).symm.trans hother)

/-- A call for a file neither resets nor removes a key of another file. -/
theorem not_removes_of_file? {c : SharedCall} (hc : c.file? = some other) (h : file ≠ other)
    (now : Instant) (run : SharedRun) :
    TimedCall.resetOf? ⟨now, c.call⟩ (LoopKey.of file p).text = none ∧
      ¬ Removes l (LoopKey.of file p).text ⟨now, c.call⟩ run.history := by
  constructor
  · rw [Option.eq_none_iff_forall_ne_some]
    intro o hreset
    have hfile := (SharedCall.file_of_resetOf? hreset).1
    rw [hc] at hfile
    exact h (Option.some.inj hfile).symm
  · cases c with
    | reset loop =>
      rintro ⟨o, -, hremoves⟩
      cases hremoves
    | guard loop =>
      rintro ⟨o, -, hremoves⟩
      cases hremoves
    | forget file' =>
      cases hc
      exact not_removes_forgetFile h now
    | host => cases hc

/-- A call for another file leaves what is remembered under a key. -/
theorem remembers_cons {c : SharedCall} (hc : c.file? = some other) (h : file ≠ other)
    (now : Instant) (run : SharedRun) :
    birth? l (LoopKey.of file p).text (⟨now, c.call⟩ :: run.history) =
        birth? l (LoopKey.of file p).text run.history ∧
      latest? (LoopKey.of file p).text (⟨now, c.call⟩ :: run.history) =
        latest? (LoopKey.of file p).text run.history := by
  obtain ⟨hreset, hkeeps⟩ := not_removes_of_file? (l := l) (p := p) hc h now run
  constructor
  · ext o
    rw [birth?_cons_of_not_reset hreset]
    exact and_iff_left hkeeps
  · rw [latest?_cons, hreset]
    rfl

/-- What is remembered under a key, and the threshold, are the same without the calls of another
file. -/
theorem remembers_without (h : file ≠ other) (run : SharedRun) :
    birth? l (LoopKey.of file p).text (run.without other).history =
        birth? l (LoopKey.of file p).text run.history ∧
      latest? (LoopKey.of file p).text (run.without other).history =
        latest? (LoopKey.of file p).text run.history ∧
      threshold l (run.without other).history = threshold l run.history := by
  induction run with
  | nil => exact ⟨rfl, rfl, rfl⟩
  | cons timed before ih =>
    obtain ⟨now, c⟩ := timed
    obtain ⟨hbirth, hlatest, hthreshold⟩ := ih
    show birth? l _ (history (without other ((now, c) :: before))) =
        birth? l _ (⟨now, c.call⟩ :: history before) ∧
      latest? _ (history (without other ((now, c) :: before))) =
        latest? _ (⟨now, c.call⟩ :: history before) ∧
      threshold l (history (without other ((now, c) :: before))) =
        threshold l (⟨now, c.call⟩ :: history before)
    rw [without_cons]
    by_cases hc : c.file? = some other
    · rw [if_pos hc, hbirth, hlatest, hthreshold]
      obtain ⟨hbirth', hlatest'⟩ := remembers_cons (l := l) (p := p) hc h now before
      refine ⟨hbirth'.symm, hlatest'.symm, ?_⟩
      rw [threshold_cons]
      cases c <;> first | rfl | cases hc
    · rw [if_neg hc]
      show birth? l _ (⟨now, c.call⟩ :: history (without other before)) = _ ∧
        latest? _ (⟨now, c.call⟩ :: history (without other before)) = _ ∧
        threshold l (⟨now, c.call⟩ :: history (without other before)) = _
      refine ⟨?_, ?_, ?_⟩
      · unfold birth?
        rw [hbirth]
        -- Whether the call is a sweep that removes the key depends on the latest reset alone.
        unfold removes overdue
        rw [hlatest]
      · rw [latest?_cons, latest?_cons, hlatest]
      · rw [threshold_cons, threshold_cons, hthreshold]

/-! ## Registries -/

theorem counter?_without (h : file ≠ other) :
    counter? l (LoopKey.of file p).text (run.without other).history =
      counter? l (LoopKey.of file p).text run.history := by
  obtain ⟨hbirth, hlatest, -⟩ := remembers_without (l := l) (p := p) h run
  rw [counter?, counter?, hbirth, hlatest]

/-- The answer to a guard depends on the counter of its key and on the threshold. -/
theorem answer_guard_congr {h h' : History} {key : String} {now : Instant}
    (hcounter : counter? l key h = counter? l key h')
    (hthreshold : threshold l h = threshold l h') :
    answer l ⟨now, .guard key⟩ h = answer l ⟨now, .guard key⟩ h' := by
  have hr := recalls_replay l h
  have hr' := recalls_replay l h'
  show (Session.guard _ key).2.answer = (Session.guard _ key).2.answer
  rw [Session.answer_guard, Session.answer_guard]
  dsimp only
  rw [hr.counter, hr'.counter, hr.threshold, hr'.threshold, hcounter, hthreshold]
  rfl

theorem guardAnswers_without (h : file ≠ other) :
    guardAnswers l file (run.without other) = guardAnswers l file run := by
  induction run with
  | nil => rfl
  | cons timed before ih =>
    obtain ⟨now, c⟩ := timed
    show guardAnswers l file (without other ((now, c) :: before)) = _
    rw [without_cons, guardAnswers]
    by_cases hguard : c.isGuardOf file = true
    · cases c with
      | guard loop =>
        have hloop : loop.file = file := by simpa [SharedCall.isGuardOf] using hguard
        have hc : (SharedCall.guard loop).file? ≠ some other := by
          intro hc
          exact h (hloop.symm.trans (Option.some.inj hc))
        obtain ⟨⟨q, hq⟩, -⟩ := loop.exists_key
        rw [hloop] at hq
        have hanswer : answer l ⟨now, .guard loop.site.key.text⟩ (history (without other before)) =
            answer l ⟨now, .guard loop.site.key.text⟩ (history before) := by
          rw [hq]
          exact answer_guard_congr (counter?_without h) (remembers_without (p := q) h before).2.2
        rw [if_neg hc, guardAnswers, if_pos hguard, if_pos hguard, ih]
        exact congrArg (· :: guardAnswers l file before) hanswer
      | reset | forget | host => cases hguard
    · rw [if_neg hguard, ← ih]
      by_cases hc : c.file? = some other
      · rw [if_pos hc]
      · rw [if_neg hc, guardAnswers, if_neg hguard]

/-- Units of different files do not disturb each other on one registry. The loops of a file are
answered the same, and the same is stored under its keys, as if no call of another file had been
made. Forgetting a file removes what is stored under its keys, and nothing under the keys of another
file. -/
theorem units_isolated (l : LoopLimits) (run : SharedRun) {file other : String}
    (h : file ≠ other) :
    guardAnswers l file (run.without other) = guardAnswers l file run ∧
    (∀ p, (replay l (run.without other).history).registry.get? (LoopKey.of file p).text =
      (replay l run.history).registry.get? (LoopKey.of file p).text) ∧
    ∀ now p,
      (replay l (⟨now, .forgetFile file⟩ :: run.history)).registry.get? (LoopKey.of file p).text =
        none ∧
      (replay l (⟨now, .forgetFile file⟩ :: run.history)).registry.get? (LoopKey.of other p).text =
        (replay l run.history).registry.get? (LoopKey.of other p).text := by
  refine ⟨guardAnswers_without h, fun p => ?_, fun now p => ⟨?_, ?_⟩⟩
  · rw [(recalls_replay l _).counter, (recalls_replay l _).counter]
    exact counter?_without h
  · have hremoved : birth? l (LoopKey.of file p).text (⟨now, .forgetFile file⟩ :: run.history) =
        none := by
      rw [Option.eq_none_iff_forall_ne_some]
      intro o hbirth
      obtain ⟨hborn, hkept⟩ := (birth?_cons_of_not_reset (by rfl)).1 hbirth
      refine hkept ⟨o, hborn, ?_⟩
      simp [removes, birth?_file hborn]
    rw [(recalls_replay l _).counter, counter?, hremoved]
    rfl
  · obtain ⟨hbirth, hlatest⟩ := remembers_cons (l := l) (p := p) (c := .forget file)
      rfl h.symm now run
    rw [(recalls_replay l _).counter, (recalls_replay l _).counter, counter?, counter?]
    change birth? l _ (⟨now, .forgetFile file⟩ :: run.history) = _ at hbirth
    change latest? _ (⟨now, .forgetFile file⟩ :: run.history) = _ at hlatest
    rw [hbirth, hlatest]

/-! ## Two files -/

/-- The loop of `endlessText`. -/
def endless (file : String) : UnitLoop := ⟨endlessText file, _, endlessText_found file⟩

/-- Two loops that start one after the other, of files that are named like one another's positions.
The second file is forgotten before the first loop asks whether it may go on. -/
def twoFiles : SharedRun :=
  [(⟨500000000⟩, .guard (endless "a.js")), (⟨3⟩, .forget "a.js:1"),
   (⟨2⟩, .guard (endless "a.js:1")), (⟨1⟩, .reset (endless "a.js:1")),
   (⟨0⟩, .reset (endless "a.js"))]

/-- The first loop is stopped whether there is a second file or not. -/
theorem twoFiles_isolated : "a.js" ≠ "a.js:1" ∧
    guardAnswers {} "a.js" (twoFiles.without "a.js:1") = [.flag true] ∧
    guardAnswers {} "a.js" twoFiles = [.flag true] := by
  have hne : "a.js" ≠ "a.js:1" := by decide
  have hanswers : guardAnswers {} "a.js" twoFiles = [.flag true] := by decide
  exact ⟨hne, (units_isolated {} twoFiles hne).1.trans hanswers, hanswers⟩

end SharedRun

end LoopGuard
