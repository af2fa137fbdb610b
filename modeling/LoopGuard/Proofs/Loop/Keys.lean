import LoopGuard.Proofs.Loop.Rejection
import LoopGuard.Proofs.Position
import Mathlib.Data.List.Nodup

/-!
# Keys tell loops apart

The key of a loop is made from the name of the file and the position of the loop in the text that is
instrumented. Loops that start at different characters of it have different keys, whatever ends its
lines; a source map only moves the positions that diagnostics name.

Results:
* `Transformer.output_of_run`: what comes of a text that was instrumented.
* `Transformer.loops_of_run`: its sites are those of its loops.
* `Transformer.transform_of_read`: a text that is instrumented.
* `transform_positions`: the positions of the loops of a text that can be instrumented.
* `Transformer.keys_nodup`: loops that start apart have keys of their own.
* `transform_keys_nodup`: the keys of an instrumented text are pairwise different.
-/

namespace LoopGuard

/-- Whether the loops that were read of a text start each at a character of its own. -/
structure ParsedText.LoopsApart (p : ParsedText) (code : List Char) : Prop where
  nodup : (p.program.loops.map fun l => l.span.lo).Nodup
  inside : ∀ l ∈ p.program.loops, l.span.lo < code.length

instance (p : ParsedText) (code : List Char) : Decidable (p.LoopsApart code) :=
  decidable_of_iff ((p.program.loops.map fun l => l.span.lo).Nodup ∧
      ∀ l ∈ p.program.loops, l.span.lo < code.length)
    ⟨fun h => ⟨h.1, h.2⟩, fun h => ⟨h.nodup, h.inside⟩⟩

/-- What two steps come to is what the second one comes to, told what the first one does. -/
theorem exists_of_bind_eq_ok {ε α β : Type} {x : Except ε α} {f : α → Except ε β} {b : β}
    (h : x >>= f = .ok b) : ∃ a, x = .ok a ∧ f a = .ok b := by
  cases x with
  | error e => cases h
  | ok a => exact ⟨a, rfl, h⟩

theorem exists_of_isSome_toOption {ε α : Type} {x : Except ε α} (h : x.toOption.isSome = true) :
    ∃ a, x = .ok a := by
  cases x with
  | error e => cases h
  | ok a => exact ⟨a, rfl⟩

/-! ## The keys of a text -/

namespace Transformer

variable {t : Transformer}

/-- The key of a loop has nothing of the source map. -/
theorem key_siteOf (t : Transformer) (l : LoopSeat) :
    (t.protector.siteOf l).key = LoopKey.of t.file (Position.of t.code l.span.lo) := rfl

/-- What comes of a text that can be instrumented is its output. -/
theorem output_of_run {out : TransformOutput} (h : t.run.1 = .ok out) :
    ∃ p, ParsedText.ofSource t.code.toArray = .ok p ∧
      (∀ l ∈ p.program.loops, l.slot.parent? = none) ∧ out = t.output p := by
  cases hp : ParsedText.ofSource t.code.toArray with
  | error d =>
    simp only [run, hp] at h
    cases h
  | ok p =>
    cases ho : WalkEvent.offence? (t.walk p).events with
    | some o =>
      rw [run_of_offence hp ho] at h
      cases h
    | none =>
      rw [run_of_no_offence hp ho] at h
      cases h
      exact ⟨p, rfl, Protector.walk_offence?_eq_none_iff.1 ho, rfl⟩

/-- What comes of a text that can be instrumented has the sites of the loops that were read. -/
theorem loops_of_run {out : TransformOutput} (h : t.run.1 = .ok out) :
    ∃ p, ParsedText.ofSource t.code.toArray = .ok p ∧
      out.loops = p.program.loops.map t.protector.siteOf := by
  obtain ⟨p, hp, hparents, rfl⟩ := output_of_run h
  exact ⟨p, hp, Protector.sites_walk_of_no_offender hparents⟩

/-- Loops that start at characters of their own have keys of their own. -/
theorem keys_nodup {p : ParsedText} (h : p.LoopsApart t.code) :
    ((p.program.loops.map t.protector.siteOf).map (·.key)).Nodup := by
  rw [List.map_map]
  have hloops : p.program.loops.Nodup := h.nodup.of_map
  refine List.Nodup.map_on ?_ hloops
  intro l hl l' hl' hkey
  have hkey : (t.protector.siteOf l).key = (t.protector.siteOf l').key := hkey
  rw [key_siteOf, key_siteOf] at hkey
  have hposition := (LoopKey.of_inj.1 hkey).2
  have hlo : l.span.lo = l'.span.lo :=
    (Position.of_inj (h.inside l hl) (h.inside l' hl')).1 hposition
  exact List.inj_on_of_nodup_map h.nodup hl hl' hlo

/-- What options that are in order are taken for. -/
theorem exists_of_of {o : TransformOptions} (h : of o = .ok t) :
    ∃ guardAlias inputMap, Alias.ofString? o.guardAlias = some guardAlias ∧
      (o.sourceMap.mapM fun text => (SourceMap.decode text).mapError TransformError.sourceMap) =
        .ok inputMap ∧
      t = ⟨guardAlias, o.file, withoutMark o.code.toList, inputMap, o.emitsSourceMap⟩ := by
  unfold of at h
  split at h
  · cases h
  · next guardAlias halias =>
    obtain ⟨inputMap, hmap, h⟩ := exists_of_bind_eq_ok h
    cases h
    exact ⟨guardAlias, inputMap, halias, hmap, rfl⟩

/-- The file and the text are taken over from the options. -/
theorem taken_of {o : TransformOptions} (h : of o = .ok t) :
    t.file = o.file ∧ t.code = withoutMark o.code.toList := by
  obtain ⟨guardAlias, inputMap, -, -, rfl⟩ := exists_of_of h
  exact ⟨rfl, rfl⟩

end Transformer

/-! ## Texts -/

/-- What is instrumented has options that are in order. -/
theorem Transformer.run_of_transform {o : TransformOptions} {out : TransformOutput}
    (h : (transform o).1 = .ok out) : ∃ t, of o = .ok t ∧ t.run.1 = .ok out := by
  unfold transform at h
  cases ht : of o with
  | error e =>
    rw [ht] at h
    cases h
  | ok t =>
    rw [ht] at h
    exact ⟨t, rfl, h⟩

/-- A text that can be read, with loops that can all be protected, is instrumented. -/
theorem Transformer.transform_of_read {o : TransformOptions} {t : Transformer} {p : ParsedText}
    (ht : of o = .ok t) (hp : ParsedText.ofSource t.code.toArray = .ok p)
    (hparents : ∀ l ∈ p.program.loops, l.slot.parent? = none) :
    (transform o).1 = .ok (t.output p) := by
  have ho : WalkEvent.offence? (t.walk p).events = none :=
    Protector.walk_offence?_eq_none_iff.2 hparents
  rw [transform, ht]
  exact congrArg Prod.fst (run_of_no_offence hp ho)

/-- The loops of an instrumented text are said to be where they stand. -/
theorem transform_positions {o : TransformOptions} {positions : List Position}
    (hoptions : (Transformer.of o).toOption.isSome = true)
    (hread : ParsedText.passes (withoutMark o.code.toList).toArray fun p =>
      decide ((∀ l ∈ p.program.loops, l.slot.parent? = none) ∧
        p.program.loops.map (fun l => Position.of (withoutMark o.code.toList) l.span.lo) =
          positions)) :
    ∃ out, (transform o).1 = .ok out ∧ out.loops.map (·.generated) = positions := by
  obtain ⟨p, hp, htest⟩ := ParsedText.exists_of_passes hread
  obtain ⟨hparents, hpositions⟩ := of_decide_eq_true htest
  obtain ⟨t, ht⟩ := exists_of_isSome_toOption hoptions
  obtain ⟨-, hcode⟩ := Transformer.taken_of ht
  rw [← hcode] at hp hpositions
  have hsites : (t.output p).loops = p.program.loops.map t.protector.siteOf :=
    Protector.sites_walk_of_no_offender hparents
  refine ⟨t.output p, Transformer.transform_of_read ht hp hparents, ?_⟩
  rw [hsites, List.map_map, ← hpositions]
  rfl

/-- No two loops of an instrumented text have the same key, whatever source map comes with it. -/
theorem transform_keys_nodup (o : TransformOptions) (out : TransformOutput)
    (hout : (transform o).1 = .ok out)
    (hparser : ∀ p, ParsedText.ofSource (withoutMark o.code.toList).toArray = .ok p →
      p.LoopsApart (withoutMark o.code.toList)) :
    (out.loops.map (·.key)).Nodup := by
  obtain ⟨t, ht, hrun⟩ := Transformer.run_of_transform hout
  obtain ⟨-, hcode⟩ := Transformer.taken_of ht
  obtain ⟨p, hp, hloops⟩ := Transformer.loops_of_run hrun
  rw [← hcode] at hparser
  rw [hloops]
  exact Transformer.keys_nodup (hparser p hp)

/-- A text with line ends of all kinds behind a byte order mark. -/
def mixedLineEnds : TransformOptions where
  guardAlias := "g"
  file := "a:1.js"
  code := "\ufeffwhile(a){}\r\nwhile(\"😀\"){}while(b){}\rfor(;;){}\n\rwhile(c){}"
  sourceMap :=
    some "\x7b\"version\":3,\"sources\":[\"b.ts\"],\"names\":[],\"mappings\":\"AAAA\"\x7d"

/-- The text without its byte order mark. -/
def mixedLineEnds.text : List Char := withoutMark mixedLineEnds.code.toList

/-- Where the text's loops are. -/
def mixedLineEnds.positions : List Position := [⟨1, 0⟩, ⟨2, 0⟩, ⟨2, 13⟩, ⟨3, 24⟩, ⟨5, 1⟩]

theorem mixedLineEnds_read : ∃ p, ParsedText.ofSource mixedLineEnds.text.toArray = .ok p ∧
    p.LoopsApart mixedLineEnds.text ∧ (∀ l ∈ p.program.loops, l.slot.parent? = none) ∧
    p.program.loops.map (fun l => Position.of mixedLineEnds.text l.span.lo) =
      mixedLineEnds.positions := by
  have hpasses : ParsedText.passes mixedLineEnds.text.toArray fun p =>
      decide (p.LoopsApart mixedLineEnds.text ∧ (∀ l ∈ p.program.loops, l.slot.parent? = none) ∧
        p.program.loops.map (fun l => Position.of mixedLineEnds.text l.span.lo) =
          mixedLineEnds.positions) := by
    decide +kernel
  obtain ⟨p, hp, htest⟩ := ParsedText.exists_of_passes hpasses
  exact ⟨p, hp, of_decide_eq_true htest⟩

theorem mixedLineEnds_keys_nodup : ∃ out, (transform mixedLineEnds).1 = .ok out ∧
    out.loops.map (·.generated) = mixedLineEnds.positions ∧ (out.loops.map (·.key)).Nodup := by
  obtain ⟨p, hp, hapart, hparents, hpositions⟩ := mixedLineEnds_read
  have hoptions : (Transformer.of mixedLineEnds).toOption.isSome = true := by decide +kernel
  obtain ⟨t, ht⟩ := exists_of_isSome_toOption hoptions
  obtain ⟨-, hcode⟩ := Transformer.taken_of ht
  have hcode : t.code = mixedLineEnds.text := hcode
  rw [← hcode] at hp hapart hpositions
  have hrun : (transform mixedLineEnds).1 = .ok (t.output p) :=
    Transformer.transform_of_read ht hp hparents
  refine ⟨t.output p, hrun, ?_, ?_⟩
  · have hsites : (t.output p).loops = p.program.loops.map t.protector.siteOf :=
      Protector.sites_walk_of_no_offender hparents
    rw [hsites, List.map_map, ← hpositions]
    rfl
  · refine transform_keys_nodup mixedLineEnds _ hrun fun p' hp' => ?_
    have hcode' : withoutMark mixedLineEnds.code.toList = t.code := hcode.symm
    rw [hcode'] at hp' ⊢
    cases hp.symm.trans hp'
    exact hapart

end LoopGuard
