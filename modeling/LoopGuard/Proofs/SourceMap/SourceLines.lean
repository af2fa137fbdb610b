import LoopGuard.Proofs.SourceMap.Composed
import Mathlib.Algebra.Ring.Int.Defs

/-!
# Lines of the source

The source line of a token is not written in a map: it is the sum of what the segments up to the
token's own say that the line moves on by, kept to 32 bits. A position is on the line after that, as
lines of a source count from zero in a map and from one in a position. This too is kept to 32 bits,
and so the line after the greatest number is line zero.

Results:
* `Mappings.lines_of_decode`: the source lines of decoded mappings are the sums of their steps.
* `SourceMap.lines_of_steps`: the source lines of a decoded map, the line of a position that comes
  from a source, and the line that a loop is reset with.
* `SourceMap.backStep_leaves`: a map that a position comes from line zero by.
-/

namespace LoopGuard

namespace Mappings

/-! ## Steps -/

/-- How many lines the numbers of a segment move on by: by their third one, if there is one. -/
def lineStep (ns : List Int) : Int := ns.getD 2 0

/-- The number of 32 bits that a number is kept as. -/
def word (n : Int) : Nat := (n % UInt32.size).toNat

/-- The source lines of segments with these numbers, whose steps come after steps of this sum. -/
def sourceLines (sum : Int) : List (List Int) → List Nat
  | [] => []
  | ns :: rest => word (sum + lineStep ns) :: sourceLines (sum + lineStep ns) rest

theorem moved_word (n d : Int) : moved (word n) d = word (n + d) := by
  have hword : ((word n : Nat) : Int) = n % UInt32.size := by
    have : (0 : Int) ≤ n % UInt32.size := Int.emod_nonneg n (by decide)
    simp only [word]
    omega
  unfold moved
  rw [hword, Int.emod_add_emod]
  rfl

theorem word_lt (n : Int) : word n < UInt32.size := by
  have hnonneg : (0 : Int) ≤ n % UInt32.size := Int.emod_nonneg n (by decide)
  have hlt : n % UInt32.size < UInt32.size := Int.emod_lt_of_pos n (by decide)
  unfold word
  omega

theorem lt_of_mem_sourceLines {n : Nat} {sum : Int} {nss : List (List Int)}
    (h : n ∈ sourceLines sum nss) : n < UInt32.size := by
  induction nss generalizing sum with
  | nil => cases h
  | cons ns rest ih =>
    rcases List.mem_cons.1 h with rfl | h
    · exact word_lt _
    · exact ih h

/-! ## Along the mappings -/

variable {counts : Counts} {base base' last : Base} {sum : Int}

/-- A segment's token is on the line that its step leads to, and so are those that come next. -/
theorem line_of_tokenOf {line column : Nat} {isRange : Bool} {ns : List Int} {t : MapToken}
    (hsum : base.sourceLine = word sum)
    (h : tokenOf counts base line column isRange ns.tail = .ok (t, base')) :
    t.sourceLine = word (sum + lineStep ns) ∧ base'.sourceLine = word (sum + lineStep ns) := by
  -- The third of a segment's numbers is the second behind the column.
  have hstep : lineStep ns = ns.tail.getD 1 0 := by
    cases ns <;> rfl
  obtain ⟨hds, rfl, rfl⟩ | ⟨d, dl, dc, source, hds, -, rfl, rfl⟩ |
    ⟨d, dl, dc, dn, source, name, hds, -, -, rfl, rfl⟩ := tokenOf_cases h
  all_goals
    rw [hstep, hds]
    simp [hsum, moved_word]

/-- Where the first step is added to a sum that the base is at, the source lines are the sums of the
steps. -/
theorem Follow.lines {nss : List (List Int)} {ts : List MapToken}
    (h : Follow counts base nss ts last) (hsum : base.sourceLine = word sum) :
    ts.map (·.sourceLine) = sourceLines sum nss := by
  induction h generalizing sum with
  | nil => rfl
  | cons token _ ih =>
    obtain ⟨hline, hbase⟩ := line_of_tokenOf hsum token
    rw [List.map_cons, hline, ih hbase]
    rfl

/-- The source lines of decoded mappings are the sums of the steps up to each segment. -/
theorem lines_of_decode {mappings ranges : String} {ts : List MapToken}
    (h : decode counts mappings ranges = .ok ts) :
    ∃ nss, (segments mappings.toList).mapM Digits.numbers = .ok nss ∧
      ts.map (·.sourceLine) = sourceLines 0 nss := by
  obtain ⟨nss, last, hnss, hfollow⟩ := follow_of_decode h
  exact ⟨nss, hnss, hfollow.lines rfl⟩

end Mappings

/-! ## Where loops stand -/

theorem Position.line_of_pos (source : List Char) (offset : Nat) : 0 < (of source offset).line := by
  show 0 < 1 + linesBefore source offset
  omega

theorem Transformer.generated_siteOf {t : Transformer} (l : LoopSeat) :
    (t.protector.siteOf l).generated = Position.of t.code l.span.lo := rfl

namespace SourceMap

/-! ## Resolved lines -/

/-- The tokens of a decoded map are on the lines that the steps of its mappings lead to. -/
theorem sourceLines_perm {text : String} {m : SourceMap} (hm : decode text = .ok m) :
    ∃ (d : Draft) (nss : List (List Int)), d.plain = .ok m ∧
      (Mappings.segments d.mappings.toList).mapM Digits.numbers = .ok nss ∧
      (m.tokens.map (·.sourceLine)).Perm (Mappings.sourceLines 0 nss) := by
  obtain ⟨d, hd⟩ := exists_draft hm
  obtain ⟨ts, hts, htokens⟩ := tokens_of_plain hd
  obtain ⟨nss, hnss, hlines⟩ := Mappings.lines_of_decode hts
  refine ⟨d, nss, hd, hnss, ?_⟩
  rw [htokens, ← hlines]
  exact (MapToken.sortBy_perm _ ts).map _

theorem sourceLine_lt {text : String} {m : SourceMap} (hm : decode text = .ok m) :
    ∀ t ∈ m.tokens, t.sourceLine < UInt32.size := by
  obtain ⟨d, nss, -, -, hperm⟩ := sourceLines_perm hm
  intro t ht
  exact Mappings.lt_of_mem_sourceLines (hperm.mem_iff.1 (List.mem_map_of_mem ht))

/-- The line of a position that comes from a source is the one after the source line of the token
that it comes from, unless this is the last line that 32 bits can number: then it is line zero. -/
theorem line_of_originalPosition {text : String} {m : SourceMap} (hm : decode text = .ok m)
    {p q : Position} (hq : m.originalPosition? p = some q) :
    ∃ t, m.IsLastOfLine p t ∧ t.source.isSome = true ∧
      (t.sourceLine + 1 < UInt32.size → q.line = t.sourceLine + 1) ∧
      (t.sourceLine + 1 = UInt32.size ↔ q.line = 0) := by
  obtain ⟨t, hlast, hsource, rfl⟩ := (original_of_lookup (tokens_inOrder hm)).1 q hq
  have hlt := sourceLine_lt hm t hlast.mem
  refine ⟨t, hlast, hsource, fun h => Nat.mod_eq_of_lt h, ?_⟩
  show _ ↔ (t.sourceLine + 1) % UInt32.size = 0
  simp only [UInt32.size] at hlt ⊢
  omega

/-- Source lines are sums of the steps that the segments up to a token say, in 32 bits. The line of
a position that comes from a source is the one after the token's source line, and at least one, but
for tokens on the last line that 32 bits can number: a position that comes from there is on line
zero. So is the line that a loop is reset with at least one, unless its position comes from
there. -/
theorem lines_of_steps (text : String) (m : SourceMap) (hm : decode text = .ok m) :
    (∃ (d : Draft) (nss : List (List Int)), d.plain = .ok m ∧
      (Mappings.segments d.mappings.toList).mapM Digits.numbers = .ok nss ∧
      (m.tokens.map (·.sourceLine)).Perm (Mappings.sourceLines 0 nss)) ∧
    (∀ p q, m.originalPosition? p = some q → ∃ t, m.IsLastOfLine p t ∧ t.source.isSome = true ∧
      (t.sourceLine + 1 < UInt32.size → q.line = t.sourceLine + 1) ∧
      (t.sourceLine + 1 = UInt32.size ↔ q.line = 0)) ∧
    ∀ (o : TransformOptions) (out : TransformOutput), (transform o).1 = .ok out →
      ∀ s ∈ out.loops, (o.sourceMap = none → 0 < s.resetOptions.line) ∧
        (o.sourceMap = some text → s.resetOptions.line = 0 →
          ∃ t, m.IsLastOfLine s.generated t ∧ t.source.isSome = true ∧
            t.sourceLine + 1 = UInt32.size) := by
  refine ⟨sourceLines_perm hm, fun p q hq => line_of_originalPosition hm hq,
    fun o out hout s hs => ?_⟩
  obtain ⟨t, ht, hrun⟩ := Transformer.run_of_transform hout
  obtain ⟨pt, -, hloops⟩ := Transformer.loops_of_run hrun
  rw [hloops] at hs
  obtain ⟨l, -, rfl⟩ := List.mem_map.1 hs
  have hgenerated : 0 < (t.protector.siteOf l).generated.line := by
    rw [Transformer.generated_siteOf]
    exact Position.line_of_pos _ _
  obtain ⟨hmapless, hmap⟩ := Transformer.inputMap_of ht
  constructor
  · intro ho
    -- Without a map the original position is the generated one.
    show 0 < (t.protector.siteOf l).original.line
    rw [original_siteOf, hmapless ho]
    exact hgenerated
  · intro ho hzero
    change (t.protector.siteOf l).original.line = 0 at hzero
    rw [original_siteOf, hmap text m ho hm, Option.bind_some] at hzero
    -- Line zero is no line of a text, so the map has resolved the position, and its line wrapped.
    cases hq : m.originalPosition? (t.protector.siteOf l).generated with
    | none =>
      rw [hq] at hzero
      change (t.protector.siteOf l).generated.line = 0 at hzero
      omega
    | some q =>
      rw [hq] at hzero
      obtain ⟨k, hlast, hsource, -, hiff⟩ := line_of_originalPosition hm hq
      exact ⟨k, hlast, hsource, hiff.2 hzero⟩

/-- A map whose second token is on the source line before that of its first one. -/
def backAndForth : String :=
  "\x7b\"version\":3,\"sources\":[\"a.ts\"],\"names\":[],\"mappings\":\"AAKA,CADA;AACA\"\x7d"

/-- The tokens of that map. -/
def backAndForthTokens : List MapToken :=
  [⟨0, 0, some 0, 5, 0, none, false⟩, ⟨0, 1, some 0, 4, 0, none, false⟩,
    ⟨1, 0, some 0, 5, 0, none, false⟩]

theorem backAndForth_lines : ∃ m, decode backAndForth = .ok m ∧
    m.originalPosition? ⟨1, 3⟩ = some ⟨5, 0⟩ ∧
    ∃ t, m.IsLastOfLine ⟨1, 3⟩ t ∧ t.source.isSome = true ∧ t.sourceLine + 1 ≠ UInt32.size ∧
      (m.tokens.map (·.sourceLine)).Perm
        (Mappings.sourceLines 0 [[0, 0, 5, 0], [1, 0, -1, 0], [0, 0, 1, 0]]) := by
  have hhas : hasTokens backAndForth backAndForthTokens = true := by decide +kernel
  obtain ⟨m, hm, htokens⟩ := exists_of_hasTokens hhas
  have hq : m.originalPosition? ⟨1, 3⟩ = some ⟨5, 0⟩ := calc
    m.originalPosition? ⟨1, 3⟩ = originalPosition? { tokens := backAndForthTokens } ⟨1, 3⟩ :=
      originalPosition?_congr htokens _
    _ = some ⟨5, 0⟩ := by decide
  obtain ⟨t, hlast, hsource, -, hiff⟩ := (lines_of_steps backAndForth m hm).2.1 _ _ hq
  refine ⟨m, hm, hq, t, hlast, hsource, ?_, ?_⟩
  · rw [Ne, hiff]
    exact nofun
  · rw [htokens]
    decide

/-- A map whose only token moves back by a line from the first line of the source. -/
def backStep : String :=
  "\x7b\"version\":3,\"sources\":[\"a.ts\"],\"names\":[],\"mappings\":\"AADA\"\x7d"

/-- The token is on the last line that 32 bits can number, and what comes from there is on line
zero. -/
theorem backStep_leaves : ∃ m, decode backStep = .ok m ∧
    m.originalPosition? ⟨1, 0⟩ = some ⟨0, 0⟩ ∧
    ∀ t, m.IsLastOfLine ⟨1, 0⟩ t → t.sourceLine + 1 = 4294967296 := by
  have hhas : hasTokens backStep [⟨0, 0, some 0, 4294967295, 0, none, false⟩] = true := by
    decide +kernel
  obtain ⟨m, hm, htokens⟩ := exists_of_hasTokens hhas
  have hq : m.originalPosition? ⟨1, 0⟩ = some ⟨0, 0⟩ := calc
    m.originalPosition? ⟨1, 0⟩ =
        originalPosition? { tokens := [⟨0, 0, some 0, 4294967295, 0, none, false⟩] } ⟨1, 0⟩ :=
      originalPosition?_congr htokens _
    _ = some ⟨0, 0⟩ := by decide
  refine ⟨m, hm, hq, fun t ht => ?_⟩
  have hmem := ht.mem
  rw [htokens, List.mem_singleton] at hmem
  simp [hmem]

end SourceMap

end LoopGuard
