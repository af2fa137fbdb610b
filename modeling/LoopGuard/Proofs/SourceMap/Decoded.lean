import LoopGuard.Proofs.SourceMap.Lookup

/-!
# Decoded mappings

The tokens of a text of mappings are read one after the other, each from the numbers of its segment
and from what the segments in front of it have come to. Neither the lines of the text nor its empty
segments make a difference to that.

Results:
* `Mappings.tokenOf_cases`: what the numbers of a segment come to.
* `Mappings.follow_of_decode`: the tokens of decoded mappings follow from the numbers of the
  segments.
* `SourceMap.within_of_decode`: sources and names of a decoded map are ones that it has.
-/

namespace LoopGuard

/-- Whether a token has no source and no name but the first ones that there are. -/
structure MapToken.Within (counts : Mappings.Counts) (t : MapToken) : Prop where
  source : ∀ n, t.source = some n → n < counts.sources
  name : ∀ n, t.name = some n → n < counts.names

namespace Mappings

/-- The segments of a text of mappings, without the empty ones. -/
def segments (mappings : List Char) : List (List Char) :=
  ((splitOn ';' mappings).flatMap (splitOn ',')).filter fun segment => !segment.isEmpty

/-- Tokens that follow from these numbers of segments, in front of which `base` holds and behind
which the last base does. -/
inductive Follow (counts : Counts) : Base → List (List Int) → List MapToken → Base → Prop where
  | nil {base : Base} : Follow counts base [] [] base
  | cons {base base' last : Base} {line column : Nat} {isRange : Bool} {ns : List Int}
      {nss : List (List Int)} {t : MapToken} {ts : List MapToken}
      (token : tokenOf counts base line column isRange ns.tail = .ok (t, base'))
      (rest : Follow counts base' nss ts last) : Follow counts base (ns :: nss) (t :: ts) last

variable {counts : Counts} {base base' last : Base}

/-! ## One segment -/

theorem lt_of_sourceAt {d : Int} {n : Nat} (h : sourceAt counts base d = .ok n) :
    n < counts.sources := by
  unfold sourceAt at h
  dsimp only at h
  split at h
  · next hlt => cases h; exact hlt
  · cases h

theorem lt_of_nameAt {d : Int} {n : Nat} (h : nameAt counts base d = .ok n) :
    n < counts.names := by
  unfold nameAt at h
  dsimp only at h
  split at h
  · next hlt => cases h; exact hlt
  · cases h

/-- A segment's numbers behind the column come to a token without a source, to one of a source, or
to one that has a name too. -/
theorem tokenOf_cases {line column : Nat} {isRange : Bool} {ds : List Int} {t : MapToken}
    (h : tokenOf counts base line column isRange ds = .ok (t, base')) :
    (ds = [] ∧ base' = base ∧
      t = ⟨line, column, none, base.sourceLine, base.sourceColumn, none, isRange⟩) ∨
    (∃ d dl dc source, ds = [d, dl, dc] ∧ source < counts.sources ∧
      base' = ⟨source, moved base.sourceLine dl, moved base.sourceColumn dc, base.name⟩ ∧
      t = ⟨line, column, some source, base'.sourceLine, base'.sourceColumn, none, isRange⟩) ∨
    (∃ d dl dc dn source name, ds = [d, dl, dc, dn] ∧ source < counts.sources ∧
      name < counts.names ∧
      base' = ⟨source, moved base.sourceLine dl, moved base.sourceColumn dc, name⟩ ∧
      t = ⟨line, column, some source, base'.sourceLine, base'.sourceColumn, some name,
        isRange⟩) := by
  unfold tokenOf at h
  split at h
  · cases h
    exact .inl ⟨rfl, rfl, rfl⟩
  · next d dl dc =>
    obtain ⟨source, hsource, h⟩ := exists_of_bind_eq_ok h
    cases h
    exact .inr (.inl ⟨d, dl, dc, source, rfl, lt_of_sourceAt hsource, rfl, rfl⟩)
  · next d dl dc dn =>
    obtain ⟨source, hsource, h⟩ := exists_of_bind_eq_ok h
    obtain ⟨name, hname, h⟩ := exists_of_bind_eq_ok h
    cases h
    exact .inr (.inr ⟨d, dl, dc, dn, source, name, rfl, lt_of_sourceAt hsource,
      lt_of_nameAt hname, rfl, rfl⟩)
  · cases h

theorem within_of_tokenOf {line column : Nat} {isRange : Bool} {ds : List Int} {t : MapToken}
    (h : tokenOf counts base line column isRange ds = .ok (t, base')) : t.Within counts := by
  obtain ⟨-, -, rfl⟩ | ⟨d, dl, dc, source, -, hsource, -, rfl⟩ |
    ⟨d, dl, dc, dn, source, name, -, hsource, hname, -, rfl⟩ := tokenOf_cases h
  · exact ⟨nofun, nofun⟩
  · refine ⟨?_, nofun⟩
    rintro n ⟨⟩
    exact hsource
  · constructor
    · rintro n ⟨⟩
      exact hsource
    · rintro n ⟨⟩
      exact hname

/-! ## All segments -/

namespace Follow

variable {nss nss' : List (List Int)} {ts ts' : List MapToken}

theorem append (h : Follow counts base nss ts base') (h' : Follow counts base' nss' ts' last) :
    Follow counts base (nss ++ nss') (ts ++ ts') last := by
  induction h with
  | nil => exact h'
  | cons token _ ih => exact .cons token (ih h')

theorem within (h : Follow counts base nss ts last) : ∀ t ∈ ts, t.Within counts := by
  induction h with
  | nil => exact nofun
  | cons token _ ih =>
    rw [List.forall_mem_cons]
    exact ⟨within_of_tokenOf token, ih⟩

end Follow

theorem follow_of_lineTokens {line column : Nat} {marks : List Bool} {segments : List (List Char)}
    {ts : List MapToken} (h : lineTokens counts line column base marks segments = .ok (ts, last)) :
    ∃ nss, (segments.filter fun segment => !segment.isEmpty).mapM Digits.numbers = .ok nss ∧
      Follow counts base nss ts last := by
  induction segments generalizing column base marks ts with
  | nil =>
    cases h
    exact ⟨[], rfl, .nil⟩
  | cons segment rest ih =>
    rw [lineTokens] at h
    split at h
    · next hempty =>
      rw [List.filter_cons_of_neg (by simp [hempty])]
      exact ih h
    · next hempty =>
      rw [List.filter_cons_of_pos (by simp [hempty]), List.mapM_cons]
      obtain ⟨ns, hns, h⟩ := exists_of_bind_eq_ok h
      obtain ⟨⟨t, base'⟩, hfirst, h⟩ := exists_of_bind_eq_ok h
      obtain ⟨⟨others, end'⟩, hothers, h⟩ := exists_of_bind_eq_ok h
      cases h
      obtain ⟨nss, hnss, hfollow⟩ := ih hothers
      refine ⟨ns :: nss, ?_, .cons hfirst hfollow⟩
      rw [hns, hnss]
      rfl

theorem follow_of_linesTokens {line : Nat} {ranges lines : List (List Char)} {ts : List MapToken}
    (h : linesTokens counts line base ranges lines = .ok ts) :
    ∃ nss last, ((lines.flatMap (splitOn ',')).filter fun segment => !segment.isEmpty).mapM
        Digits.numbers = .ok nss ∧ Follow counts base nss ts last := by
  induction lines generalizing line base ranges ts with
  | nil =>
    cases h
    exact ⟨[], base, rfl, .nil⟩
  | cons text rest ih =>
    rw [linesTokens] at h
    rw [List.flatMap_cons, List.filter_append, List.mapM_append]
    split at h
    · next hempty =>
      obtain rfl := List.isEmpty_iff.1 hempty
      obtain ⟨nss, last, hnss, hfollow⟩ := ih h
      exact ⟨nss, last, by rw [hnss]; rfl, hfollow⟩
    · obtain ⟨marks, -, h⟩ := exists_of_bind_eq_ok h
      obtain ⟨⟨first, base'⟩, hfirst, h⟩ := exists_of_bind_eq_ok h
      obtain ⟨others, hothers, h⟩ := exists_of_bind_eq_ok h
      cases h
      obtain ⟨nss, hnss, hfollow⟩ := follow_of_lineTokens hfirst
      obtain ⟨nss', last, hnss', hfollow'⟩ := ih hothers
      refine ⟨nss ++ nss', last, ?_, hfollow.append hfollow'⟩
      rw [hnss, hnss']
      rfl

/-- The tokens of decoded mappings follow from the numbers of their segments. -/
theorem follow_of_decode {mappings ranges : String} {ts : List MapToken}
    (h : decode counts mappings ranges = .ok ts) :
    ∃ nss last, (segments mappings.toList).mapM Digits.numbers = .ok nss ∧
      Follow counts {} nss ts last := follow_of_linesTokens h

end Mappings

namespace SourceMap

/-- How many sources and names a map has. -/
def counts (m : SourceMap) : Mappings.Counts := ⟨m.sources.length, m.names.length⟩

/-- Sources and names of a decoded map's tokens are ones that the map has. -/
theorem within_of_decode {text : String} {m : SourceMap} (h : decode text = .ok m) :
    ∀ t ∈ m.tokens, t.Within m.counts := by
  obtain ⟨d, hd⟩ := exists_draft h
  obtain ⟨ts, hts, htokens⟩ := tokens_of_plain hd
  have hcounts : m.counts = ⟨d.sources.length, d.names.length⟩ := by
    unfold Draft.plain at hd
    rw [hts] at hd
    cases hd
    simp [counts]
  obtain ⟨nss, last, -, hfollow⟩ := Mappings.follow_of_decode hts
  intro t ht
  rw [htokens, (MapToken.sortBy_perm _ _).mem_iff] at ht
  rw [hcounts]
  exact hfollow.within t ht

end SourceMap

end LoopGuard
