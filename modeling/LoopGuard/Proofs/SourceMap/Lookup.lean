import LoopGuard.Proofs.Loop.Keys
import LoopGuard.Proofs.Sorting

/-!
# Looking up positions

The tokens of a map that was decoded come in the order of their places. So the token that a place is
looked up to is the last one that does not lie behind it, and where that token is on the line asked
for, it is the last one of this line up to the column asked for.

Results:
* `SourceMap.tokens_inOrder`: the tokens of a decoded map are in order.
* `SourceMap.lookup_eq_some`, `SourceMap.lookup_eq_none`: what is looked up for a place.
* `SourceMap.original_is_last_of_line`: where a position comes from, and where a loop is said to
  come from.
* `SourceMap.steepRange_stops`: the columns of a range token stop at the greatest number.
-/

namespace LoopGuard

/-! ## The order of places -/

namespace Place

theorem before_iff {a b : Place} :
    a.before b = true ↔ a.line < b.line ∨ a.line = b.line ∧ a.column < b.column := by
  simp [before]

theorem not_before_iff {a b : Place} :
    a.before b = false ↔ b.line < a.line ∨ b.line = a.line ∧ b.column ≤ a.column := by
  rw [← Bool.not_eq_true, before_iff]
  omega

theorem eq_of_not_before {a b : Place} (hab : a.before b = false) (hba : b.before a = false) :
    a = b := by
  obtain ⟨line, column⟩ := a
  obtain ⟨line', column'⟩ := b
  simp only [not_before_iff] at hab hba
  simp only [mk.injEq]
  omega

theorem before_self (a : Place) : a.before a = false := by
  rw [not_before_iff]
  omega

theorem before_asymm {a b : Place} (h : a.before b = true) : b.before a = false := by
  rw [before_iff] at h
  rw [not_before_iff]
  omega

end Place

namespace MapToken

theorem isOrder_before (key : MapToken → Place) :
    Sorting.IsOrder fun a b => (key a).before (key b) where
  asymm := Place.before_asymm
  trans h h' := by
    rw [Place.not_before_iff] at h h' ⊢
    omega

/-- Whether tokens are in the order of some of their places. -/
def InOrder (key : MapToken → Place) (ts : List MapToken) : Prop :=
  Sorting.InOrder (fun a b => (key a).before (key b)) ts

theorem sortBy_inOrder (key : MapToken → Place) (ts : List MapToken) :
    InOrder key (sortBy key ts) := Sorting.sort_inOrder (isOrder_before key) ts

theorem sortBy_perm (key : MapToken → Place) (ts : List MapToken) : (sortBy key ts).Perm ts :=
  Sorting.sort_perm _ ts

end MapToken

namespace SourceMap

/-! ## Decoded maps -/

/-- A map that was decoded comes from a draft that is no list of maps. -/
theorem exists_draft {text : String} {m : SourceMap} (h : decode text = .ok m) :
    ∃ d : Draft, d.plain = .ok m := by
  obtain ⟨content, -, h⟩ := exists_of_bind_eq_ok h
  dsimp only at h
  split at h
  · cases h
  · next d _ =>
    unfold Draft.map at h
    split at h
    · cases h
    · split at h
      · cases h
      · exact ⟨d, h⟩

/-- The tokens of a draft's map are those of its mappings, in order. -/
theorem tokens_of_plain {d : Draft} {m : SourceMap} (h : d.plain = .ok m) :
    ∃ ts, Mappings.decode ⟨d.sources.length, d.names.length⟩ d.mappings d.ranges = .ok ts ∧
      m.tokens = MapToken.sortBy MapToken.place ts := by
  obtain ⟨ts, hts, h⟩ := exists_of_bind_eq_ok h
  cases h
  exact ⟨ts, hts, rfl⟩

/-- The tokens of a decoded map are in the order of the generated text. -/
theorem tokens_inOrder {text : String} {m : SourceMap} (h : decode text = .ok m) :
    MapToken.InOrder MapToken.place m.tokens := by
  obtain ⟨d, hd⟩ := exists_draft h
  obtain ⟨ts, -, hts⟩ := tokens_of_plain hd
  rw [hts]
  exact MapToken.sortBy_inOrder _ _

/-! ## What is looked up -/

variable {m : SourceMap} {p : Place} {t : MapToken}

/-- Of tokens in order, the one that is looked up does not lie behind the place, and no token
between the two does. -/
theorem lookup_eq_some (hm : MapToken.InOrder MapToken.place m.tokens) (h : m.lookup p = some t) :
    t ∈ m.tokens ∧ p.before t.place = false ∧
      ∀ t' ∈ m.tokens, p.before t'.place = false → t.place.before t'.place = false := by
  unfold lookup at h
  split at h
  case h_1 t' hfind =>
    cases h
    have hplace : t.place = p := by simpa using List.find?_some hfind
    refine ⟨List.mem_of_find?_eq_some hfind, ?_, fun t' _ ht' => by rwa [hplace]⟩
    rw [hplace]
    exact Place.before_self p
  case h_2 hnone =>
    obtain ⟨hbefore, behind, front, hsplit, hbehind⟩ := List.find?_eq_some_iff_append.1 h
    have hback : p.before t.place = false := Place.before_asymm hbefore
    have hmem (x : MapToken) : x ∈ m.tokens ↔ x ∈ behind ++ t :: front := by
      rw [← hsplit, List.mem_reverse]
    refine ⟨(hmem t).2 (by simp), hback, fun t' ht' hp => ?_⟩
    rcases List.mem_append.1 ((hmem t').1 ht') with hb | hf
    · -- A token that is not behind the place is in front of it, or right at it.
      have hfront : t'.place.before p = false := by simpa using hbehind t' hb
      have heq : t'.place = p := Place.eq_of_not_before hfront hp
      exact absurd heq (by simpa using List.find?_eq_none.1 hnone t' ht')
    · rcases List.mem_cons.1 hf with rfl | hf
      · exact Place.before_self t'.place
      · have horder : (behind ++ t :: front).Pairwise
            fun a b => a.place.before b.place = false := by
          rw [← hsplit]
          exact List.pairwise_reverse.2 hm
        exact List.rel_of_pairwise_cons (List.pairwise_append.1 horder).2.1 hf

/-- Nothing is looked up for a place that all tokens lie behind. -/
theorem lookup_eq_none (h : m.lookup p = none) : ∀ t ∈ m.tokens, p.before t.place = true := by
  unfold lookup at h
  split at h
  case h_1 => cases h
  case h_2 hnone =>
    intro t ht
    have hne : t.place ≠ p := by simpa using List.find?_eq_none.1 hnone t ht
    have hfront : t.place.before p = false := by
      simpa using List.find?_eq_none.1 h t (List.mem_reverse.2 ht)
    by_contra hback
    rw [Bool.not_eq_true] at hback
    exact hne (Place.eq_of_not_before hfront hback)

/-! ## Where positions come from -/

/-- Whether a token is one of the last ones of a position's line up to its column. -/
structure IsLastOfLine (m : SourceMap) (p : Position) (t : MapToken) : Prop where
  mem : t ∈ m.tokens
  line : t.line + 1 = p.line
  column_le : t.column ≤ p.column
  last : ∀ t' ∈ m.tokens, t'.line = t.line → t'.column ≤ p.column → t'.column ≤ t.column

theorem isLastOfLine_of_lookup {p : Position} (hm : MapToken.InOrder MapToken.place m.tokens)
    (hp : p.line ≠ 0) (h : m.lookup ⟨p.line - 1, p.column⟩ = some t) (hline : t.line = p.line - 1) :
    m.IsLastOfLine p t := by
  obtain ⟨hmem, hplace, hlast⟩ := lookup_eq_some hm h
  simp only [Place.not_before_iff, MapToken.place] at hplace hlast
  refine ⟨hmem, by omega, by omega, fun t' ht' hline' hcolumn => ?_⟩
  have := hlast t' ht' (by omega)
  omega

/-- A position comes from where its line's last token up to its column says, as far as this comes
from a source. -/
theorem original_of_lookup {p : Position} (hm : MapToken.InOrder MapToken.place m.tokens) :
    (∀ q, m.originalPosition? p = some q → ∃ t, m.IsLastOfLine p t ∧ t.source.isSome = true ∧
      q = ⟨(t.sourceLine + 1) % UInt32.size,
        min (t.sourceColumn + columnShift t p.column) (UInt32.size - 1)⟩) ∧
    (m.originalPosition? p = none → p.line = 0 ∨
      (∀ t ∈ m.tokens, t.line + 1 = p.line → p.column < t.column) ∨
      ∃ t, m.IsLastOfLine p t ∧ t.source = none) := by
  unfold originalPosition?
  by_cases hp : p.line = 0
  · simp [hp]
  rw [if_neg hp]
  cases hlookup : m.lookup ⟨p.line - 1, p.column⟩ with
  | none =>
    refine ⟨nofun, fun _ => .inr (.inl fun t ht hline => ?_)⟩
    have hbehind := lookup_eq_none hlookup t ht
    simp only [Place.before_iff, MapToken.place] at hbehind
    omega
  | some t =>
    dsimp only
    by_cases hline : t.line = p.line - 1
    · have hlast := isLastOfLine_of_lookup hm hp hlookup hline
      by_cases hsource : t.source.isSome = true
      · rw [if_pos ⟨hline, hsource⟩]
        refine ⟨?_, nofun⟩
        rintro q ⟨⟩
        exact ⟨t, hlast, hsource, rfl⟩
      · rw [if_neg fun h => hsource h.2]
        exact ⟨nofun, fun _ => .inr (.inr ⟨t, hlast, by simpa using hsource⟩)⟩
    · rw [if_neg fun h => hline h.1]
      refine ⟨nofun, fun _ => .inr (.inl fun t' ht' hline' => ?_)⟩
      -- The token that was found is on an earlier line, so this line's tokens lie behind.
      obtain ⟨-, hplace, hlast⟩ := lookup_eq_some hm hlookup
      have hlast := hlast t' ht'
      simp only [Place.not_before_iff, MapToken.place] at hplace hlast
      omega

end SourceMap

/-! ## Where loops come from -/

/-- The source map of the options is decoded, if there is one. -/
theorem Transformer.inputMap_of {o : TransformOptions} {t : Transformer} (h : of o = .ok t) :
    (o.sourceMap = none → t.inputMap = none) ∧
      ∀ text m, o.sourceMap = some text → SourceMap.decode text = .ok m → t.inputMap = some m := by
  obtain ⟨guardAlias, inputMap, -, hmap, rfl⟩ := Transformer.exists_of_of h
  constructor
  · intro hnone
    rw [hnone] at hmap
    cases hmap
    rfl
  · intro text m htext hm
    rw [htext] at hmap
    simp only [Option.mapM_some, hm] at hmap
    cases hmap
    rfl

theorem original_siteOf {t : Transformer} (l : LoopSeat) :
    (t.protector.siteOf l).original =
      (t.inputMap.bind (·.originalPosition? (t.protector.siteOf l).generated)).getD
        (t.protector.siteOf l).generated := rfl

namespace SourceMap

/-- Where a position comes from, for every map that can be decoded and every position: from where
one of the last tokens of its line up to its column says. It comes from nowhere only if it is on no
line, if its line has no token up to its column, or if one of the last ones has no source. A loop is
said to come from there, and from where it stands if that is nowhere. Columns stop at the greatest
number of 32 bits. -/
theorem original_is_last_of_line (text : String) (m : SourceMap) (hm : decode text = .ok m)
    (p : Position) :
    (∀ q, m.originalPosition? p = some q → ∃ t, m.IsLastOfLine p t ∧ t.source.isSome = true ∧
      (t.sourceLine + 1 < UInt32.size → q.line = t.sourceLine + 1) ∧
      q.column = min (t.sourceColumn + columnShift t p.column) (UInt32.size - 1)) ∧
    (m.originalPosition? p = none → p.line = 0 ∨
      (∀ t ∈ m.tokens, t.line + 1 = p.line → p.column < t.column) ∨
      ∃ t, m.IsLastOfLine p t ∧ t.source = none) ∧
    ∀ (o : TransformOptions) (out : TransformOutput), (transform o).1 = .ok out →
      ∀ s ∈ out.loops, (o.sourceMap = none → s.original = s.generated) ∧
        (o.sourceMap = some text →
          s.original = (m.originalPosition? s.generated).getD s.generated) := by
  obtain ⟨hsome, hnone⟩ := original_of_lookup (p := p) (tokens_inOrder hm)
  refine ⟨fun q hq => ?_, hnone, fun o out hout s hs => ?_⟩
  · obtain ⟨t, hlast, hsource, rfl⟩ := hsome q hq
    exact ⟨t, hlast, hsource, fun hline => Nat.mod_eq_of_lt hline, rfl⟩
  · obtain ⟨t, ht, hrun⟩ := Transformer.run_of_transform hout
    obtain ⟨pt, -, hloops⟩ := Transformer.loops_of_run hrun
    rw [hloops] at hs
    obtain ⟨l, -, rfl⟩ := List.mem_map.1 hs
    obtain ⟨hmapless, hmap⟩ := Transformer.inputMap_of ht
    constructor
    · intro ho
      rw [original_siteOf, hmapless ho]
      rfl
    · intro ho
      rw [original_siteOf, hmap text m ho hm]
      rfl

/-- A map of the third line alone. -/
def sparseMap : String :=
  "\x7b\"version\":3,\"sources\":[\"a.ts\"],\"names\":[],\"mappings\":\";;EASI\"\x7d"

theorem sparseMap_last : ∃ m, decode sparseMap = .ok m ∧
    m.originalPosition? ⟨3, 5⟩ = some ⟨10, 4⟩ ∧
    ∃ t, m.IsLastOfLine ⟨3, 5⟩ t ∧ t.source.isSome = true ∧ t.sourceLine = 9 := by
  have hresolves : (decode sparseMap).toOption.map (·.originalPosition? ⟨3, 5⟩) =
      some (some ⟨10, 4⟩) := by
    decide +kernel
  have htokens : (decode sparseMap).toOption.map (·.tokens) =
      some [⟨2, 2, some 0, 9, 4, none, false⟩] := by
    decide +kernel
  cases hm : decode sparseMap with
  | error f => rw [hm] at htokens; cases htokens
  | ok m =>
    rw [hm] at hresolves htokens
    have hq : m.originalPosition? ⟨3, 5⟩ = some ⟨10, 4⟩ := Option.some.inj hresolves
    obtain ⟨t, hlast, hsource, -⟩ := (original_is_last_of_line sparseMap m hm ⟨3, 5⟩).1 _ hq
    have hone : m.tokens = [⟨2, 2, some 0, 9, 4, none, false⟩] := Option.some.inj htokens
    refine ⟨m, rfl, hq, t, hlast, hsource, ?_⟩
    have hmem := hlast.mem
    rw [hone, List.mem_singleton] at hmem
    rw [hmem]

/-- A map with a range token at the start of its line. -/
def steepRange : String :=
  "\x7b\"version\":3,\"sources\":[\"a.ts\"],\"names\":[],\"mappings\":\"AAAK\","
    ++ "\"rangeMappings\":\"B\"\x7d"

/-- The column that the token's source column is moved on to is greater than any of 32 bits. -/
theorem steepRange_stops : ∃ m, decode steepRange = .ok m ∧
    m.originalPosition? ⟨1, 4294967295⟩ = some ⟨1, 4294967295⟩ ∧
    ∀ t, m.IsLastOfLine ⟨1, 4294967295⟩ t →
      t.isRange = true ∧ t.sourceColumn + (4294967295 - t.column) = 4294967300 := by
  have hresolves : (decode steepRange).toOption.map (·.originalPosition? ⟨1, 4294967295⟩) =
      some (some ⟨1, 4294967295⟩) := by
    decide +kernel
  have htokens : (decode steepRange).toOption.map (·.tokens) =
      some [⟨0, 0, some 0, 0, 5, none, true⟩] := by
    decide +kernel
  cases hm : decode steepRange with
  | error f => rw [hm] at htokens; cases htokens
  | ok m =>
    rw [hm] at hresolves htokens
    have hone : m.tokens = [⟨0, 0, some 0, 0, 5, none, true⟩] := Option.some.inj htokens
    refine ⟨m, rfl, Option.some.inj hresolves, fun t ht => ?_⟩
    have hmem := ht.mem
    rw [hone, List.mem_singleton] at hmem
    subst hmem
    exact ⟨rfl, by simp⟩

end SourceMap

end LoopGuard
