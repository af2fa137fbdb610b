import LoopGuard.Proofs.Loop.CallsInText
import LoopGuard.Proofs.Loop.Keys
import LoopGuard.Proofs.Loop.Pasted
import LoopGuard.Proofs.Loop.ResetText
import LoopGuard.Proofs.Syntax.Printer.Node

/-!
# The order of loops

The loops of an instrumented text are listed in the order of the walk. This is the order in which
they stand in the text, and their reset calls in the instrumented text, but for two constructs: a
loop in the test of a `do` loop is listed before those in its body, and a loop in a member of a
class before those in its heritage.

Results:
* `Transformer.precedes_of_inText`: loops that stand in a text one behind the other.
* `Transformer.loops_in_order`: which of two listed loops stands before the other.
* `Transformer.turnedLoops_listed`: a text whose loops are not listed as they stand.
-/

namespace LoopGuard

/-- Whether the loops that were read of a text stand where something is written, and start one after
the other inside the text in the order in which they are written. Not every text is read like this:
the parser takes an arrow behind several items in parentheses, and then the items are in the tree
twice, once as they stand and once as the parameters of the arrow function. -/
structure ParsedText.LoopsInText (p : ParsedText) (code : List Char) : Prop where
  written : p.program.loopsInText.length = p.program.loops.length
  ascending : (p.program.loopsInText.map fun l => l.span.lo).Pairwise (· < ·)
  inside : ∀ l ∈ p.program.loops, l.span.lo < code.length

instance (p : ParsedText) (code : List Char) : Decidable (p.LoopsInText code) :=
  decidable_of_iff (p.program.loopsInText.length = p.program.loops.length ∧
      (p.program.loopsInText.map fun l => l.span.lo).Pairwise (· < ·) ∧
      ∀ l ∈ p.program.loops, l.span.lo < code.length)
    ⟨fun h => ⟨h.1, h.2.1, h.2.2⟩, fun h => ⟨h.written, h.ascending, h.inside⟩⟩

/-- A loop in one of several items that stand in front of an arrow. -/
example : (ParsedText.passes "(a, b = function () \x7b for (;;) \x7b\x7d \x7d => a)".toList.toArray
    fun p => decide (p.program.loops.map (·.span.lo) = [22, 22])) = true := by decide +kernel

namespace ParsedText.LoopsInText

variable {p : ParsedText} {code : List Char}

theorem perm (h : p.LoopsInText code) : p.program.loopsInText.Perm p.program.loops :=
  p.program.loops_rearranged.subperm.perm_of_length_le (Nat.le_of_eq h.written.symm)

theorem nodup (h : p.LoopsInText code) : p.program.loops.Nodup := by
  have hinText : p.program.loopsInText.Nodup :=
    List.Nodup.of_map _ (h.ascending.imp fun hlt => Nat.ne_of_lt hlt)
  exact h.perm.nodup hinText

end ParsedText.LoopsInText

/-- Whether a loop stands before another one in a text, and its reset call before that of the other
in the instrumented text. -/
structure LoopSite.Precedes (guardAlias code : String) (a b : LoopSite) : Prop where
  generated : a.generated < b.generated
  printed : ∃ front mid back depth depth', code =
    front ++ a.resetOptions.callText guardAlias depth ++ mid
      ++ b.resetOptions.callText guardAlias depth' ++ back

theorem LoopSite.Precedes.not_lt {guardAlias code : String} {a b : LoopSite}
    (h : LoopSite.Precedes guardAlias code a b) : ¬ b.generated < a.generated :=
  fun hlt => Position.lt_irrefl _ (Position.lt_trans h.generated hlt)

/-! ## Aliases -/

namespace Alias

theorem toList_foldl_path (properties : List String) (front : String) :
    (properties.foldl (fun front w => front ++ "." ++ w) front).toList =
      front.toList ++ properties.flatMap ('.' :: ·.toList) := by
  induction properties generalizing front with
  | nil => simp
  | cons w rest ih =>
    rw [List.foldl_cons, ih, List.flatMap_cons]
    simp

variable {text : String} {a : Alias}

theorem Spells.path_eq (h : Spells text a) : a.path = text :=
  String.toList_inj.1 ((toList_foldl_path _ _).trans h.text.symm)

theorem Spells.root_ne (h : Spells text a) : a.root ≠ "" := by
  intro hroot
  obtain ⟨c, hc, -⟩ := (h.words a.root List.mem_cons_self).start
  rw [hroot] at hc
  cases hc

end Alias

/-! ## Reset calls in a text -/

/-- Two reset calls that are written one behind the other. -/
theorem PrintedBetween.resets {a : Alias} (ha : a.root ≠ "") {o o' : ResetOptions} {code : String}
    (h : PrintedBetween "" [.reset a o, .reset a o'] code) :
    ∃ front mid back depth depth', code =
      front ++ o.callText a.path depth ++ mid ++ o'.callText a.path depth' ++ back := by
  obtain ⟨front, more, w, hw, hreset, front', more', w', hw', hreset', back, rfl⟩ := h
  rw [Print.text_reset ha] at hreset hreset'
  obtain rfl := (String.append_right_inj _).1 hreset
  obtain rfl := (String.append_right_inj _).1 hreset'
  refine ⟨front ++ Writer.margin w.indent w.atLineStart,
    front' ++ Writer.margin w'.indent w'.atLineStart, back, w.indent, w'.indent, ?_⟩
  rw [hw', hw]
  simp only [String.empty_append, String.append_assoc]

namespace Transformer

variable {t : Transformer} {p : ParsedText}

theorem alias_of {o : TransformOptions} (h : of o = .ok t) :
    Alias.ofString? o.guardAlias = some t.guardAlias := by
  obtain ⟨guardAlias, inputMap, halias, -, rfl⟩ := exists_of_of h
  exact halias

/-- Loops that stand one behind the other. -/
theorem precedes_of_inText {o : TransformOptions} (ht : of o = .ok t)
    (hp : ParsedText.ofSource t.code.toArray = .ok p)
    (hparents : ∀ l ∈ p.program.loops, l.slot.parent? = none) (hparser : p.LoopsInText t.code)
    {a b : LoopSeat} (hab : [a, b].Sublist p.program.loopsInText) :
    LoopSite.Precedes o.guardAlias (t.output p).code (t.protector.siteOf a)
      (t.protector.siteOf b) where
  generated := by
    have hlo := List.pairwise_pair.1 (hparser.ascending.sublist (hab.map fun l => l.span.lo))
    have hb := hparser.inside b (hparser.perm.subset (hab.subset (by simp)))
    exact Position.of_lt_of hlo (Nat.le_of_lt hb)
  printed := by
    have hspells := Alias.spells_of_ofString? (alias_of ht)
    have ho : WalkEvent.offence? (t.walk p).events = none :=
      Protector.walk_offence?_eq_none_iff.2 hparents
    have hcalls : Part.calls (t.walk p).value.inText = _ :=
      t.protector.protectProgram_resets (ParsedText.isWritten_ofSource hp)
        (WalkEvent.offence?_eq_none_iff.1 ho)
    have hprints := Program.prints_calls (t.walk p).value { comments := p.comments }
    rw [hcalls] at hprints
    have hpair := hprints.sublist (hab.map t.protector.resetOf)
    rw [← hspells.path_eq]
    exact PrintedBetween.resets hspells.root_ne hpair

/-- Of two loops that are listed one behind the other the first one stands before the second, and so
do their reset calls, unless they are turned: then it is the other way round. -/
theorem loops_in_order (o : TransformOptions) (out : TransformOutput)
    (hout : (transform o).1 = .ok out)
    (hparser : ∀ p, ParsedText.ofSource (withoutMark o.code.toList).toArray = .ok p →
      p.LoopsInText (withoutMark o.code.toList)) :
    ∃ t p, of o = .ok t ∧ ParsedText.ofSource t.code.toArray = .ok p ∧
      out.loops = p.program.loops.map t.protector.siteOf ∧
      ∀ a b, [a, b].Sublist p.program.loops →
        (¬ p.program.Turned a b → LoopSite.Precedes o.guardAlias out.code
          (t.protector.siteOf a) (t.protector.siteOf b)) ∧
        (p.program.Turned a b → LoopSite.Precedes o.guardAlias out.code
          (t.protector.siteOf b) (t.protector.siteOf a)) := by
  obtain ⟨t, ht, hrun⟩ := run_of_transform hout
  obtain ⟨p, hp, hparents, rfl⟩ := output_of_run hrun
  rw [← (taken_of ht).2] at hparser
  have hparser := hparser p hp
  refine ⟨t, p, ht, hp, Protector.sites_walk_of_no_offender hparents, fun a b hab => ?_⟩
  have hrearranged := p.program.loops_rearranged
  have ha := hparser.perm.symm.subset (hab.subset (by simp : a ∈ [a, b]))
  have hb := hparser.perm.symm.subset (hab.subset (by simp : b ∈ [a, b]))
  constructor
  · intro hturned
    have hkept := hrearranged.kept hparser.nodup a ha b hb hab hturned
    exact precedes_of_inText ht hp hparents hparser hkept
  · intro hturned
    have hturned := hrearranged.turned hparser.nodup a ha b hb hturned
    exact precedes_of_inText ht hp hparents hparser hturned

/-- What is true of the output for options that are in order and a text that can be read, with loops
that can all be protected. -/
theorem exists_output (o : TransformOptions) (test : TransformOutput → Bool)
    (h : (of o).toOption.any (fun t => ParsedText.passes t.code.toArray fun p =>
      decide (∀ l ∈ p.program.loops, l.slot.parent? = none) && test (t.output p)) = true) :
    ∃ out, (transform o).1 = .ok out ∧ test out = true := by
  cases ht : of o with
  | error e =>
    rw [ht] at h
    cases h
  | ok t =>
    rw [ht] at h
    obtain ⟨p, hp, htest⟩ := ParsedText.exists_of_passes h
    rw [Bool.and_eq_true, decide_eq_true_iff] at htest
    exact ⟨t.output p, transform_of_read ht hp htest.1, htest.2⟩

/-- The site of a loop in the only line of a file. -/
def siteAt (kind : LoopKind) (column : Nat) : LoopSite :=
  .of "a.js" kind .sequence ⟨1, column⟩ ⟨1, column⟩

/-- A class with a loop in its heritage and one in a method, and a loop behind it. -/
def classLoops : TransformOptions where
  guardAlias := "lp"
  file := "a.js"
  code := "class A extends f(() => \x7b for (;;) \x7b\x7d \x7d) "
    ++ "\x7b m() \x7b for (;;) \x7b\x7d \x7d \x7d for (;;) \x7b\x7d"

/-- The loop in the method is listed first, and stands between the other two. -/
theorem classLoops_listed : ∃ out method heritage last, (transform classLoops).1 = .ok out ∧
    out.loops = [method, heritage, last] ∧
    LoopSite.Precedes "lp" out.code heritage method ∧
    LoopSite.Precedes "lp" out.code method last := by
  obtain ⟨out, hout, hloops⟩ := exists_output classLoops (fun out => out.loops ==
    [siteAt (.iterating .indexed) 49, siteAt (.iterating .indexed) 26,
      siteAt (.iterating .indexed) 65]) (by decide +kernel)
  rw [beq_iff_eq] at hloops
  have hread : ParsedText.passes (withoutMark classLoops.code.toList).toArray fun p =>
      decide (p.LoopsInText (withoutMark classLoops.code.toList)) := by
    decide +kernel
  obtain ⟨p, hp, hparser⟩ := ParsedText.exists_of_passes hread
  obtain ⟨t, p', -, -, hsites, horder⟩ := loops_in_order classLoops out hout fun p' hp' => by
    cases hp.symm.trans hp'
    exact of_decide_eq_true hparser
  rw [hloops] at hsites
  obtain ⟨x, xs, hx, hmethod, hxs⟩ := List.map_eq_cons_iff.1 hsites.symm
  obtain ⟨y, ys, rfl, hheritage, hys⟩ := List.map_eq_cons_iff.1 hxs
  obtain ⟨z, zs, rfl, hlast, hzs⟩ := List.map_eq_cons_iff.1 hys
  obtain rfl := List.map_eq_nil_iff.1 hzs
  rw [hx] at horder
  have hturned := horder x y (by simp)
  have hkept := horder x z (by simp)
  rw [hmethod, hheritage] at hturned
  rw [hmethod, hlast] at hkept
  refine ⟨out, _, _, _, hout, hloops, ?_, ?_⟩
  · by_cases h : p'.program.Turned x y
    · exact hturned.2 h
    · exact absurd (.inr ⟨rfl, by decide⟩) (hturned.1 h).not_lt
  · by_cases h : p'.program.Turned x z
    · exact absurd (.inr ⟨rfl, by decide⟩) (hkept.2 h).not_lt
    · exact hkept.1 h

/-- A `do` loop with a loop in its body and one in a function in its test. -/
def turnedLoops : TransformOptions where
  guardAlias := "lp"
  file := "a.js"
  code := "do \x7b while (b) \x7b\x7d \x7d while (function () \x7b while (c) \x7b\x7d \x7d)"

/-- The loop in the test is listed before the one in the body, and stands behind it. -/
theorem turnedLoops_listed : ∃ out test body, (transform turnedLoops).1 = .ok out ∧
    [test, body].Sublist out.loops ∧ LoopSite.Precedes "lp" out.code body test := by
  obtain ⟨out, hout, htest⟩ := exists_output turnedLoops (fun out =>
    out.loops == [siteAt .postTest 0, siteAt .preTest 41, siteAt .preTest 5] &&
    out.code == (siteAt .postTest 0).resetOptions.callText "lp" 0
        ++ "do \x7b\n    if (lp.guard(\"a.js:1:0\")) break;\n    "
      ++ (siteAt .preTest 5).resetOptions.callText "lp" 1
      ++ ("    while(b)\x7b\n        if (lp.guard(\"a.js:1:5\")) break;\n    \x7d\n"
        ++ "\x7dwhile (function() \x7b\n    ")
      ++ (siteAt .preTest 41).resetOptions.callText "lp" 1
      ++ "    while(c)\x7b\n        if (lp.guard(\"a.js:1:41\")) break;\n    \x7d\n\x7d)\n")
    (by decide +kernel)
  rw [Bool.and_eq_true, beq_iff_eq, beq_iff_eq] at htest
  refine ⟨out, siteAt .preTest 41, siteAt .preTest 5, hout, ?_,
    .inr ⟨rfl, by decide⟩, _, _, _, _, _, htest.2⟩
  rw [htest.1]
  exact .cons _ (List.Sublist.refl _)

end Transformer

end LoopGuard
