import LoopGuard.Proofs.SourceMap.Decoded

/-!
# Composed maps

The map of a text whose code was written anew is composed of two maps: the one that came with the
text, and the printer's, which says where in the text each token of the written code stood. A token
of the printer's map stands for a stretch of the text, and so does one of the text's own map. Where
two stretches share a part, the start of this part is moved to where it was written.

So for each token of the printer's map there is one of the composed map at the same place that says
where the text's map resolves it to, unless stretches are empty or parts are moved to one place.

Results:
* `SourceMap.mem_tokens_after`: the tokens of a composed map.
* `SourceMap.moved_mem_tokens_after`: what the composed map has for a token of the printer's map.
* `SourceMap.within_after`: sources and names of a composed map are ones of the text's map.
* `Transformer.composed_resolves`: what the map of an instrumented text resolves.
* `Transformer.Mapped.composed_misses`: texts whose composed maps resolve places to others.
-/

namespace LoopGuard

namespace Place

theorem before_min {p a b : Place} (ha : p.before a = true) (hb : p.before b = true) :
    p.before (a.min b) = true := by
  unfold Place.min
  split <;> assumption

theorem min_not_before {p a b : Place} (ha : a.before p = false) (hb : b.before p = false) :
    (a.min b).before p = false := by
  unfold Place.min
  split <;> assumption

theorem max_eq_of_not_before {a b : Place} (h : b.before a = false) : a.max b = b := by
  unfold Place.max
  split
  · rfl
  · next hab => exact eq_of_not_before (Bool.not_eq_true _ ▸ hab) h

end Place

/-! ## Stretches -/

namespace Stretch

variable {key : MapToken → Place}

/-- The stretch of a token in front of others. -/
def inFront (key : MapToken → Place) (x : MapToken) (behind : List MapToken) : Stretch :=
  ⟨key x, ((behind.head?.map key).getD ⟨endColumn, endColumn⟩).min ⟨(key x).line, endColumn⟩, x⟩

theorem stretchesFrom_cons (key : MapToken → Place) (x : MapToken) (behind : List MapToken) :
    stretchesFrom key (x :: behind) = inFront key x behind :: stretchesFrom key behind := rfl

theorem mem_stretchesFrom {xs : List MapToken} {s : Stretch} :
    s ∈ stretchesFrom key xs ↔
      ∃ front x behind, xs = front ++ x :: behind ∧ s = inFront key x behind := by
  induction xs with
  | nil => simp [stretchesFrom]
  | cons y rest ih =>
    rw [stretchesFrom_cons, List.mem_cons, ih]
    constructor
    · rintro (rfl | ⟨front, x, behind, rfl, rfl⟩)
      · exact ⟨[], y, rest, rfl, rfl⟩
      · exact ⟨y :: front, x, behind, rfl, rfl⟩
    · rintro ⟨front, x, behind, hsplit, rfl⟩
      cases front with
      | nil =>
        cases hsplit
        exact .inl rfl
      | cons z front =>
        cases hsplit
        exact .inr ⟨front, x, behind, rfl, rfl⟩

theorem token_mem {xs : List MapToken} {s : Stretch} (h : s ∈ stretches key xs) : s.token ∈ xs := by
  obtain ⟨front, x, behind, hsplit, rfl⟩ := mem_stretchesFrom.1 h
  rw [← (MapToken.sortBy_perm key xs).mem_iff, hsplit]
  exact List.mem_append_right front (List.mem_cons_self ..)

/-- A place on a token's line lies in front of the stretch's end if it does in front of the tokens
behind. -/
theorem before_stop {x : MapToken} {behind : List MapToken} {p : Place}
    (hline : p.line = (key x).line) (hlines : p.line ≤ endColumn) (hcolumn : p.column < endColumn)
    (hbehind : ∀ b ∈ behind, p.before (key b) = true) :
    p.before (inFront key x behind).stop = true := by
  refine Place.before_min ?_ ?_
  · cases behind with
    | nil =>
      rw [Place.before_iff]
      show p.line < endColumn ∨ p.line = endColumn ∧ p.column < endColumn
      omega
    | cons b rest => exact hbehind b (List.mem_cons_self ..)
  · rw [Place.before_iff]
    exact .inr ⟨hline, hcolumn⟩

/-- A stretch does not end in front of its start. -/
theorem stop_not_before_start {x : MapToken} {behind : List MapToken}
    (hlines : (key x).line ≤ endColumn) (hcolumn : (key x).column ≤ endColumn)
    (hbehind : ∀ b ∈ behind, (key b).before (key x) = false) :
    (inFront key x behind).stop.before (key x) = false := by
  refine Place.min_not_before ?_ ?_
  · cases behind with
    | nil =>
      rw [Place.not_before_iff]
      show (key x).line < endColumn ∨ (key x).line = endColumn ∧ (key x).column ≤ endColumn
      omega
    | cons b rest => exact hbehind b (List.mem_cons_self ..)
  · rw [Place.not_before_iff]
    exact .inr ⟨rfl, hcolumn⟩

theorem shifted_self {a b : Nat} (h : b < UInt32.size) : shifted a a b = b := by
  unfold shifted
  rw [show ((a : Int) + b - a) = b by omega, Int.emod_eq_of_lt (by omega) (by omega)]
  rfl

end Stretch

/-- Whether the numbers of a token are of 32 bits, and its source column is not the greatest. -/
structure MapToken.Fits (t : MapToken) : Prop where
  line : t.line < UInt32.size
  column : t.column < UInt32.size
  sourceLine : t.sourceLine < UInt32.size
  sourceColumn : t.sourceColumn < Stretch.endColumn

instance (t : MapToken) : Decidable t.Fits :=
  decidable_of_iff (t.line < UInt32.size ∧ t.column < UInt32.size ∧ t.sourceLine < UInt32.size ∧
      t.sourceColumn < Stretch.endColumn)
    ⟨fun h => ⟨h.1, h.2.1, h.2.2.1, h.2.2.2⟩,
      fun h => ⟨h.line, h.column, h.sourceLine, h.sourceColumn⟩⟩

namespace SourceMap

variable {m : SourceMap} {ts : List MapToken}

/-! ## The tokens of a composed map -/

theorem mem_tokens_after {c : MapToken} :
    c ∈ (m.after ts).tokens ↔
      ∃ o ∈ Stretch.stretches MapToken.sourcePlace ts,
        ∃ s ∈ Stretch.stretches MapToken.place m.tokens,
          o.overlaps s = true ∧ Stretch.joined o s = c := by
  rw [after, (MapToken.sortBy_perm _ _).mem_iff]
  simp only [List.mem_flatMap, List.mem_map, List.mem_filter, and_assoc]

/-- Whether a map resolves a place by a token: by the one that is looked up, if this is on the
place's line and comes from a source. -/
structure Resolves (m : SourceMap) (p : Place) (t : MapToken) : Prop where
  lookup : m.lookup p = some t
  line : t.line = p.line
  source : t.source.isSome = true

/-- A list with a last occurrence of an element. -/
theorem exists_last_split {xs : List MapToken} {x : MapToken} (h : x ∈ xs) :
    ∃ front behind, xs = front ++ x :: behind ∧ x ∉ behind := by
  obtain ⟨front, behind, hsplit, hfront⟩ := List.eq_append_cons_of_mem (List.mem_reverse.2 h)
  refine ⟨behind.reverse, front.reverse, ?_, fun hx => hfront (List.mem_reverse.1 hx)⟩
  rw [← List.reverse_reverse xs, hsplit]
  simp

/-- Behind the token that a place is looked up to, all tokens lie behind the place, unless others
stand there with it. -/
theorem exists_split_of_lookup {p : Place} {i : MapToken}
    (hm : MapToken.InOrder MapToken.place m.tokens) (h : m.lookup p = some i)
    (hone : i.place = p → ∀ i' ∈ m.tokens, i'.place = p → i' = i) :
    ∃ front behind, m.tokens = front ++ i :: behind ∧ ∀ b ∈ behind, p.before b.place = true := by
  obtain ⟨hmem, hplace, hlast⟩ := lookup_eq_some hm h
  by_cases hat : i.place = p
  -- At the place itself the look-up takes the first of several, and here there is only one.
  · obtain ⟨front, behind, hsplit, hbehind⟩ := exists_last_split hmem
    refine ⟨front, behind, hsplit, fun b hb => ?_⟩
    have hb' : b ∈ m.tokens := by
      rw [hsplit]
      exact List.mem_append_right _ (List.mem_cons_of_mem _ hb)
    by_contra hbefore
    rw [Bool.not_eq_true] at hbefore
    have horder : (front ++ i :: behind).Pairwise fun a b => b.place.before a.place = false :=
      hsplit ▸ hm
    have hib : b.place.before i.place = false :=
      List.rel_of_pairwise_cons (List.pairwise_append.1 horder).2.1 hb
    have heq : b.place = p := Place.eq_of_not_before (hat ▸ hib) hbefore
    exact hbehind (hone hat b hb' heq ▸ hb)
  -- In front of the place the look-up takes the last one, so all others lie behind the place.
  · unfold SourceMap.lookup at h
    split at h
    case h_1 t hfind =>
      cases h
      exact absurd (by simpa using List.find?_some hfind) hat
    case h_2 hnone =>
      obtain ⟨-, behind, front, hsplit, hbehind⟩ := List.find?_eq_some_iff_append.1 h
      refine ⟨front.reverse, behind.reverse, ?_, fun b hb => ?_⟩
      · rw [← List.reverse_reverse m.tokens, hsplit]
        simp
      · have hb' : b ∈ m.tokens := by
          rw [← List.mem_reverse, hsplit]
          exact List.mem_append_left _ (List.mem_reverse.1 hb)
        have hne : b.place ≠ p := by simpa using List.find?_eq_none.1 hnone b hb'
        have hfront : b.place.before p = false := by
          simpa using hbehind b (List.mem_reverse.1 hb)
        by_contra hbefore
        rw [Bool.not_eq_true] at hbefore
        exact hne (Place.eq_of_not_before hfront hbefore)

/-- Whether tokens of two maps leave no choice for the place in the text between them: if both are
right there, then no others are. -/
structure Unshared (m : SourceMap) (ts : List MapToken) (t i : MapToken) : Prop where
  inner : i.place = t.sourcePlace → ∀ i' ∈ m.tokens, i'.place = t.sourcePlace → i' = i
  outer : i.place = t.sourcePlace → ∀ t' ∈ ts, t'.sourcePlace = t.sourcePlace → t' = t

/-- Whether nothing from elsewhere is moved to where a token of the printer's map was written: each
part shared by two stretches that comes to the same place says the same source place. -/
def Unmixed (m : SourceMap) (ts : List MapToken) (t i : MapToken) : Prop :=
  ∀ o ∈ Stretch.stretches MapToken.sourcePlace ts, ∀ s ∈ Stretch.stretches MapToken.place m.tokens,
    o.overlaps s = true → (Stretch.joined o s).place = t.place →
      s.token.source = i.source ∧ s.token.sourcePlace = i.sourcePlace

/-- The stretch of the token that a place of the text is resolved by reaches over the place. -/
theorem exists_inner_stretch {t i : MapToken} (hm : MapToken.InOrder MapToken.place m.tokens)
    (hfits : t.Fits) (hi : m.Resolves t.sourcePlace i)
    (hone : i.place = t.sourcePlace → ∀ i' ∈ m.tokens, i'.place = t.sourcePlace → i' = i) :
    ∃ behind, Stretch.inFront MapToken.place i behind ∈ Stretch.stretches MapToken.place m.tokens ∧
      t.sourcePlace.before (Stretch.inFront MapToken.place i behind).stop = true := by
  obtain ⟨front, behind, hsplit, hbehind⟩ := exists_split_of_lookup hm hi.lookup hone
  refine ⟨behind, ?_, ?_⟩
  · rw [Stretch.stretches, MapToken.sortBy, Sorting.sort_eq_self hm]
    exact Stretch.mem_stretchesFrom.2 ⟨front, i, behind, hsplit, rfl⟩
  · refine Stretch.before_stop hi.line.symm ?_ hfits.sourceColumn hbehind
    exact Nat.le_pred_of_lt hfits.sourceLine

/-- The stretch of a token of the printer reaches over a place that is not behind its start. -/
theorem exists_outer_stretch {t : MapToken} {p : Place} (ht : t ∈ ts) (hfits : t.Fits)
    (hp : t.sourcePlace.before p = false)
    (hone : p = t.sourcePlace → ∀ t' ∈ ts, t'.sourcePlace = t.sourcePlace → t' = t) :
    ∃ behind, Stretch.inFront MapToken.sourcePlace t behind ∈
        Stretch.stretches MapToken.sourcePlace ts ∧
      p.before (Stretch.inFront MapToken.sourcePlace t behind).stop = true := by
  have hsorted := MapToken.sortBy_inOrder MapToken.sourcePlace ts
  have ht' : t ∈ MapToken.sortBy MapToken.sourcePlace ts :=
    (MapToken.sortBy_perm _ _).mem_iff.2 ht
  -- Of equal tokens the last one has the stretch; those in front of it have empty ones.
  obtain ⟨front, behind, hsplit, hbehind⟩ := exists_last_split ht'
  refine ⟨behind, Stretch.mem_stretchesFrom.2 ⟨front, t, behind, hsplit, rfl⟩, ?_⟩
  have horder : ∀ b ∈ behind, b.sourcePlace.before t.sourcePlace = false := by
    rw [hsplit] at hsorted
    exact fun b hb => List.rel_of_pairwise_cons (List.pairwise_append.1 hsorted).2.1 hb
  by_cases hat : p = t.sourcePlace
  · rw [hat]
    refine Stretch.before_stop rfl (Nat.le_pred_of_lt hfits.sourceLine) hfits.sourceColumn ?_
    intro b hb
    by_contra hbefore
    rw [Bool.not_eq_true] at hbefore
    have hb' : b ∈ ts := by
      rw [← (MapToken.sortBy_perm MapToken.sourcePlace ts).mem_iff, hsplit]
      exact List.mem_append_right _ (List.mem_cons_of_mem _ hb)
    have heq : b.sourcePlace = t.sourcePlace := Place.eq_of_not_before (horder b hb) hbefore
    exact hbehind (hone hat b hb' heq ▸ hb)
  · have hstop : (Stretch.inFront MapToken.sourcePlace t behind).stop.before t.sourcePlace =
        false := Stretch.stop_not_before_start (Nat.le_pred_of_lt hfits.sourceLine)
      (Nat.le_of_lt hfits.sourceColumn) horder
    have hfront : p.before t.sourcePlace = true := by
      by_contra hfront
      rw [Bool.not_eq_true] at hfront
      exact hat (Place.eq_of_not_before hfront hp)
    rw [Place.before_iff] at hfront ⊢
    rw [Place.not_before_iff] at hstop
    omega

/-- The composed map has the token that a place of the text is resolved by, moved to where the
place was written. -/
theorem moved_mem_tokens_after {t i : MapToken} (hm : MapToken.InOrder MapToken.place m.tokens)
    (ht : t ∈ ts) (hfits : t.Fits) (hi : m.Resolves t.sourcePlace i)
    (hone : Unshared m ts t i) :
    { i with line := t.line, column := t.column } ∈ (m.after ts).tokens := by
  have hplace : t.sourcePlace.before i.place = false := (lookup_eq_some hm hi.lookup).2.1
  obtain ⟨behind, hinner, hinnerStop⟩ := exists_inner_stretch hm hfits hi hone.inner
  obtain ⟨behind', houter, houterStop⟩ := exists_outer_stretch ht hfits hplace hone.outer
  refine mem_tokens_after.2 ⟨_, houter, _, hinner, ?_, ?_⟩
  · exact Bool.and_eq_true_iff.2 ⟨hinnerStop, houterStop⟩
  · have hstart : i.place.max t.sourcePlace = t.sourcePlace := Place.max_eq_of_not_before hplace
    show { i with
        line := Stretch.shifted (i.place.max t.sourcePlace).line t.sourceLine t.line
        column := Stretch.shifted (i.place.max t.sourcePlace).column t.sourceColumn t.column } = _
    rw [hstart]
    show { i with
        line := Stretch.shifted t.sourceLine t.sourceLine t.line
        column := Stretch.shifted t.sourceColumn t.sourceColumn t.column } = _
    rw [Stretch.shifted_self hfits.line, Stretch.shifted_self hfits.column]

/-! ## Looking up composed tokens -/

/-- Of the tokens at a place one is looked up. -/
theorem lookup_of_mem {t : MapToken} (h : t ∈ m.tokens) :
    ∃ c ∈ m.tokens, c.place = t.place ∧ m.lookup t.place = some c := by
  have hsome : (m.tokens.find? (·.place == t.place)).isSome = true :=
    List.find?_isSome.2 ⟨t, h, by simp⟩
  obtain ⟨c, hc⟩ := Option.isSome_iff_exists.1 hsome
  refine ⟨c, List.mem_of_find?_eq_some hc, by simpa using List.find?_some hc, ?_⟩
  unfold SourceMap.lookup
  rw [hc]

/-- Where a place that a token resolves comes from. -/
theorem Resolves.originalPosition?_eq {p : Place} {t : MapToken} (h : m.Resolves p t) :
    m.originalPosition? ⟨p.line + 1, p.column⟩ = some ⟨(t.sourceLine + 1) % UInt32.size,
      min (t.sourceColumn + columnShift t p.column) (UInt32.size - 1)⟩ := by
  unfold originalPosition?
  rw [if_neg (Nat.succ_ne_zero _)]
  simp only [Nat.add_sub_cancel]
  rw [h.lookup]
  exact if_pos ⟨h.line, h.source⟩

/-- A token does not move columns on where it stands, and none but a range token does elsewhere. -/
theorem columnShift_eq_zero {t : MapToken} {column : Nat}
    (h : t.column ≠ column → t.isRange = false) : columnShift t column = 0 := by
  unfold columnShift
  split
  · next hrange =>
    have : t.column = column := by
      by_contra hne
      rw [h hne] at hrange
      cases hrange
    omega
  · rfl

/-- The place that a token of the printer's map was written at is resolved to where the text's map
resolves its place in the text to, unless parts from elsewhere are moved to the place it was written
at. -/
theorem resolves_after {t i : MapToken} (hm : MapToken.InOrder MapToken.place m.tokens)
    (ht : t ∈ ts) (hfits : t.Fits) (hi : m.Resolves t.sourcePlace i) (hone : Unshared m ts t i)
    (hrange : i.place ≠ t.sourcePlace → i.isRange = false) (hmoved : Unmixed m ts t i) :
    ∃ c, (m.after ts).Resolves t.place c ∧ c.source = i.source ∧
      (m.after ts).originalPosition? ⟨t.line + 1, t.column⟩ =
        m.originalPosition? ⟨t.sourceLine + 1, t.sourceColumn⟩ := by
  obtain ⟨c, hc, hplace, hlookup⟩ := lookup_of_mem (moved_mem_tokens_after hm ht hfits hi hone)
  change c.place = t.place at hplace
  obtain ⟨o, ho, s, hs, hoverlaps, rfl⟩ := mem_tokens_after.1 hc
  obtain ⟨hsource, hsourcePlace⟩ := hmoved o ho s hs hoverlaps hplace
  have hresolves : (m.after ts).Resolves t.place (Stretch.joined o s) :=
    ⟨hlookup, congrArg Place.line hplace, hsource ▸ hi.source⟩
  refine ⟨_, hresolves, hsource, ?_⟩
  have hline : s.token.sourceLine = i.sourceLine := congrArg Place.line hsourcePlace
  have hcolumn : s.token.sourceColumn = i.sourceColumn := congrArg Place.column hsourcePlace
  have hshift : columnShift i t.sourceColumn = 0 :=
    columnShift_eq_zero fun hne => hrange fun hat => hne (congrArg Place.column hat)
  have hshift' : columnShift (Stretch.joined o s) t.column = 0 :=
    columnShift_eq_zero fun hne => absurd (congrArg Place.column hplace) hne
  have horiginal := hresolves.originalPosition?_eq
  have horiginal' := hi.originalPosition?_eq
  simp only [MapToken.place, MapToken.sourcePlace] at horiginal horiginal'
  rw [horiginal, horiginal', hshift, hshift', ← hline, ← hcolumn]
  rfl

end SourceMap

/-! ## Sources and names -/

namespace SourceMap

theorem sources_after (m : SourceMap) (ts : List MapToken) : (m.after ts).sources = m.sources := rfl

theorem names_after (m : SourceMap) (ts : List MapToken) : (m.after ts).names = m.names := rfl

/-- Sources and names of a composed map's tokens are ones that the text's map has. -/
theorem within_after {m : SourceMap} (h : ∀ t ∈ m.tokens, t.Within m.counts)
    (ts : List MapToken) : ∀ c ∈ (m.after ts).tokens, c.Within m.counts := by
  intro c hc
  obtain ⟨o, -, s, hs, -, rfl⟩ := mem_tokens_after.1 hc
  have hwithin := h s.token (Stretch.token_mem hs)
  exact ⟨hwithin.source, hwithin.name⟩

end SourceMap

/-! ## Instrumented texts -/

namespace Transformer

variable {t : Transformer}

/-- The printer's map of the code that is written for a text. -/
def printed (t : Transformer) (p : ParsedText) : SourceMap :=
  .ofMarks t.file t.code ((t.walk p).value.written p.comments).marks

/-- The map of an instrumented text that came with a map. -/
def composed (t : Transformer) (p : ParsedText) (m : SourceMap) : SourceMap :=
  m.after (t.printed p).tokens

theorem sourceMap_output {m : SourceMap} (hmap : t.inputMap = some m) (p : ParsedText) :
    (t.output p).sourceMap = some (t.composed p m).encode := by
  show t.mapOf ((t.walk p).value.written p.comments) = _
  unfold mapOf
  rw [hmap]
  rfl

end Transformer

/-! ## Texts with maps -/

namespace SourceMap

/-- The tokens that come about where stretches overlap, of tokens in order. -/
def pieces (inner outer : List MapToken) : List MapToken :=
  (Stretch.stretchesFrom MapToken.sourcePlace outer).flatMap fun o =>
    ((Stretch.stretchesFrom MapToken.place inner).filter o.overlaps).map o.joined

/-- Whether tokens are in the order of some of their places, as a test. -/
def isSorted (key : MapToken → Place) (ts : List MapToken) : Bool :=
  Sorting.isAscending (fun a b => (key a).before (key b)) ts

theorem sortBy_of_isSorted {key : MapToken → Place} {ts : List MapToken}
    (h : isSorted key ts = true) : MapToken.sortBy key ts = ts :=
  Sorting.sort_eq_self (Sorting.inOrder_of_isAscending (MapToken.isOrder_before key) h)

/-- Whether a text is one of a map with these tokens, in order. -/
def hasTokens (text : String) (ts : List MapToken) : Bool :=
  match skipJunk text.toList with
  | .error _ => false
  | .ok content =>
    match Json.read (draft (Json.depthLimit / 3)) (String.ofList content) with
    | .error _ => false
    | .ok d =>
      d.sections.isNone && !d.hasFunctionNames && isSorted MapToken.place ts &&
        (Mappings.decode ⟨d.sources.length, d.names.length⟩ d.mappings d.ranges).toOption == some ts

/-- A draft with these tokens, in order, is one of a map with them. -/
theorem Draft.exists_map {d : Draft} {ts : List MapToken} (hsections : d.sections = none)
    (hnames : d.hasFunctionNames = false) (hsorted : isSorted MapToken.place ts = true)
    (hts : Mappings.decode ⟨d.sources.length, d.names.length⟩ d.mappings d.ranges = .ok ts) :
    ∃ m, d.map = .ok m ∧ m.tokens = ts := by
  have hplain : ∃ m, d.plain = .ok m ∧ m.tokens = ts := by
    unfold Draft.plain
    rw [hts]
    exact ⟨_, rfl, sortBy_of_isSorted hsorted⟩
  obtain ⟨m, hm, htokens⟩ := hplain
  have hfault : d.fault? = none := by
    unfold Draft.fault?
    rw [hsections, hm]
  refine ⟨m, ?_, htokens⟩
  unfold Draft.map
  rw [hfault, hsections, hnames]
  exact hm

theorem exists_of_hasTokens {text : String} {ts : List MapToken} (h : hasTokens text ts = true) :
    ∃ m, decode text = .ok m ∧ m.tokens = ts := by
  unfold hasTokens at h
  split at h
  · cases h
  · next content hjunk =>
    split at h
    · cases h
    · next d hread =>
      simp only [Bool.and_eq_true, Bool.not_eq_true', Option.isNone_iff_eq_none, beq_iff_eq] at h
      obtain ⟨⟨⟨hsections, hnames⟩, hsorted⟩, hdecode⟩ := h
      cases hts : Mappings.decode ⟨d.sources.length, d.names.length⟩ d.mappings d.ranges with
      | error f => rw [hts] at hdecode; cases hdecode
      | ok ts' =>
        rw [hts] at hdecode
        cases hdecode
        obtain ⟨m, hm, htokens⟩ := d.exists_map hsections hnames hsorted hts
        refine ⟨m, ?_, htokens⟩
        unfold decode
        rw [hjunk]
        change (match Json.read (draft (Json.depthLimit / 3)) (String.ofList content) with
          | .error e => Except.error (MapFault.json (e.message (String.ofList content)))
          | .ok d => d.map) = .ok m
        rw [hread]
        exact hm

theorem tokens_after {m : SourceMap} {ts : List MapToken}
    (hm : isSorted MapToken.place m.tokens = true) (hts : isSorted MapToken.sourcePlace ts = true)
    (hpieces : isSorted MapToken.place (pieces m.tokens ts) = true) :
    (m.after ts).tokens = pieces m.tokens ts := by
  unfold after Stretch.stretches
  rw [sortBy_of_isSorted hm, sortBy_of_isSorted hts]
  exact sortBy_of_isSorted hpieces

/-- Where places come from is told by the tokens. -/
theorem originalPosition?_congr {m m' : SourceMap} (h : m.tokens = m'.tokens) (p : Position) :
    m.originalPosition? p = m'.originalPosition? p := by
  simp only [originalPosition?, lookup, h]

end SourceMap

namespace Transformer

/-- A text that comes with a map, the tokens of this map, and those of the printer's map. -/
structure Mapped where
  code : String
  map : String
  inner : List MapToken
  outer : List MapToken

namespace Mapped

/-- What is asked of a transformer. -/
def options (s : Mapped) : TransformOptions where
  guardAlias := "lp"
  file := "a.js"
  code := s.code
  sourceMap := some s.map

/-- Whether the tokens are those that are read and printed. -/
def holds (s : Mapped) : Bool :=
  SourceMap.hasTokens s.map s.inner &&
    match Transformer.of s.options with
    | .error _ => false
    | .ok t =>
      ParsedText.passes t.code.toArray fun p =>
        decide ((∀ l ∈ p.program.loops, l.slot.parent? = none) ∧ (t.printed p).tokens = s.outer)

theorem exists_output {s : Mapped} (h : s.holds = true) :
    ∃ m t p, SourceMap.decode s.map = .ok m ∧ m.tokens = s.inner ∧ of s.options = .ok t ∧
      ParsedText.ofSource t.code.toArray = .ok p ∧ (transform s.options).1 = .ok (t.output p) ∧
      (t.printed p).tokens = s.outer := by
  unfold holds at h
  rw [Bool.and_eq_true] at h
  obtain ⟨hmap, hprinted⟩ := h
  obtain ⟨m, hm, hinner⟩ := SourceMap.exists_of_hasTokens hmap
  cases ht : of s.options with
  | error e =>
    rw [ht] at hprinted
    cases hprinted
  | ok t =>
    rw [ht] at hprinted
    obtain ⟨p, hp, htest⟩ := ParsedText.exists_of_passes hprinted
    obtain ⟨hparents, houter⟩ := of_decide_eq_true htest
    exact ⟨m, t, p, hm, hinner, rfl, hp, transform_of_read ht hp hparents, houter⟩

end Mapped

/-- The map of an instrumented text is composed of the text's and the printer's. All its sources and
names are ones of the text's map. Where the printer's map sends a place of the written code to a
place of the text that the text's map resolves, the composed map resolves the one place to where the
text's map resolves the other to: if right at the place of the text both maps have no other tokens,
if a token in front of it is no range token, and if no part from elsewhere is moved to the place of
the written code too. -/
theorem composed_resolves (o : TransformOptions) (out : TransformOutput) (text : String)
    (m : SourceMap) (hmap : o.sourceMap = some text) (hm : SourceMap.decode text = .ok m)
    (hout : (transform o).1 = .ok out) :
    ∃ t p, of o = .ok t ∧ ParsedText.ofSource t.code.toArray = .ok p ∧
      out.sourceMap = some (t.composed p m).encode ∧
      ((t.composed p m).sources = m.sources ∧ (t.composed p m).names = m.names ∧
        ∀ c ∈ (t.composed p m).tokens, c.Within m.counts) ∧
      ∀ x ∈ (t.printed p).tokens, x.Fits → ∀ i, m.Resolves x.sourcePlace i →
        m.Unshared (t.printed p).tokens x i →
          { i with line := x.line, column := x.column } ∈ (t.composed p m).tokens ∧
          ((i.place ≠ x.sourcePlace → i.isRange = false) →
            m.Unmixed (t.printed p).tokens x i →
            ∃ c, (t.composed p m).Resolves x.place c ∧ c.source = i.source ∧
              (t.composed p m).originalPosition? ⟨x.line + 1, x.column⟩ =
                m.originalPosition? ⟨x.sourceLine + 1, x.sourceColumn⟩) := by
  obtain ⟨t, ht, hrun⟩ := run_of_transform hout
  obtain ⟨p, hp, -, rfl⟩ := output_of_run hrun
  have hinput : t.inputMap = some m := (inputMap_of ht).2 text m hmap hm
  have horder := SourceMap.tokens_inOrder hm
  refine ⟨t, p, ht, hp, sourceMap_output hinput p,
    ⟨SourceMap.sources_after m _, SourceMap.names_after m _, ?_⟩, ?_⟩
  · exact SourceMap.within_after (SourceMap.within_of_decode hm) _
  · intro x hx hfits i hi hone
    refine ⟨SourceMap.moved_mem_tokens_after horder hx hfits hi hone, fun hrange hmoved => ?_⟩
    exact SourceMap.resolves_after horder hx hfits hi hone hrange hmoved

namespace Mapped

/-- The map has one token, where the loop starts. -/
def mappedLoop : Mapped where
  code := "f();\nwhile (b) g();"
  map := "\x7b\"version\":3,\"sources\":[\"a.ts\"],\"names\":[],\"mappings\":\";AASI\"\x7d"
  inner := [⟨1, 0, some 0, 9, 4, none, false⟩]
  outer := [⟨0, 0, some 0, 0, 0, none, false⟩, ⟨7, 0, some 0, 1, 0, none, false⟩,
    ⟨7, 6, some 0, 1, 7, none, false⟩, ⟨9, 4, some 0, 1, 10, none, false⟩]

/-- The call in the loop's body is resolved to where the loop comes from. -/
theorem mappedLoop_resolves :
    ∃ m t p out, SourceMap.decode mappedLoop.map = .ok m ∧ of mappedLoop.options = .ok t ∧
      (transform mappedLoop.options).1 = .ok out ∧
      out.sourceMap = some (t.composed p m).encode ∧
      (t.composed p m).originalPosition? ⟨10, 4⟩ = some ⟨10, 4⟩ := by
  obtain ⟨m, t, p, hm, hinner, ht, hp, hout, houter⟩ :=
    exists_output (s := mappedLoop) (by decide +kernel)
  obtain ⟨t', p', ht', hp', hmap, -, hresolves⟩ :=
    composed_resolves mappedLoop.options _ mappedLoop.map m rfl hm hout
  cases ht.symm.trans ht'
  cases hp.symm.trans hp'
  have hi : m.Resolves ⟨1, 10⟩ ⟨1, 0, some 0, 9, 4, none, false⟩ := by
    refine ⟨?_, rfl, rfl⟩
    unfold SourceMap.lookup
    rw [hinner]
    decide
  have honly : ∀ x ∈ m.tokens, x = ⟨1, 0, some 0, 9, 4, none, false⟩ := by
    rw [hinner]
    simp [mappedLoop]
  obtain ⟨-, hresolved⟩ := hresolves ⟨9, 4, some 0, 1, 10, none, false⟩ (by rw [houter]; decide)
    (by decide) _ hi ⟨nofun, nofun⟩
  obtain ⟨-, -, -, horiginal⟩ := hresolved (fun _ => rfl) fun o _ s hs _ _ => by
    rw [honly s.token (Stretch.token_mem hs)]
    exact ⟨rfl, rfl⟩
  refine ⟨m, t, p, _, hm, ht, hout, hmap, horiginal.trans ?_⟩
  exact hi.originalPosition?_eq

/-- Whether the composed map does not resolve the place that a token was written at to where the
text's map resolves the token's place in the text to. -/
def Misses (s : Mapped) (x : MapToken) : Prop :=
  ∃ m t p out q, SourceMap.decode s.map = .ok m ∧ of s.options = .ok t ∧
    ParsedText.ofSource t.code.toArray = .ok p ∧ (transform s.options).1 = .ok out ∧
    out.sourceMap = some (t.composed p m).encode ∧ x ∈ (t.printed p).tokens ∧
    m.originalPosition? ⟨x.sourceLine + 1, x.sourceColumn⟩ = some q ∧
    (t.composed p m).originalPosition? ⟨x.line + 1, x.column⟩ ≠ some q

/-- Whether the tokens of both maps are in order, and those of the composed map come in order. -/
def isSorted (s : Mapped) : Bool :=
  SourceMap.isSorted MapToken.place s.inner && SourceMap.isSorted MapToken.sourcePlace s.outer &&
    SourceMap.isSorted MapToken.place (SourceMap.pieces s.inner s.outer)

theorem misses_of {s : Mapped} {x : MapToken} (q : Position) (h : s.holds = true)
    (hsorted : s.isSorted = true) (hx : x ∈ s.outer)
    (hinner : ({ tokens := s.inner } : SourceMap).originalPosition?
      ⟨x.sourceLine + 1, x.sourceColumn⟩ = some q)
    (hcomposed : ({ tokens := SourceMap.pieces s.inner s.outer } : SourceMap).originalPosition?
      ⟨x.line + 1, x.column⟩ ≠ some q) :
    s.Misses x := by
  obtain ⟨m, t, p, hm, htokens, ht, hp, hout, houter⟩ := exists_output h
  have hinput : t.inputMap = some m := (inputMap_of ht).2 s.map m rfl hm
  unfold isSorted at hsorted
  simp only [Bool.and_eq_true] at hsorted
  obtain ⟨⟨hsortedInner, hsortedOuter⟩, hsortedPieces⟩ := hsorted
  have hpieces : (t.composed p m).tokens = SourceMap.pieces s.inner s.outer := by
    rw [← htokens] at hsortedInner hsortedPieces ⊢
    rw [← houter] at hsortedOuter hsortedPieces ⊢
    exact SourceMap.tokens_after hsortedInner hsortedOuter hsortedPieces
  refine ⟨m, t, p, _, q, hm, ht, hp, hout, sourceMap_output hinput p, houter ▸ hx, ?_, ?_⟩
  · exact (SourceMap.originalPosition?_congr htokens _).trans hinner
  · intro hq
    exact hcomposed ((SourceMap.originalPosition?_congr hpieces _).symm.trans hq)

/-- The text has a private name, which is printed in two parts that were read at one place. -/
def privateName : Mapped where
  code := "class A\x7b#x=1\x7d"
  map := "\x7b\"version\":3,\"sources\":[\"a.ts\"],\"names\":[],\"mappings\":\"QAKG\"\x7d"
  inner := [⟨0, 8, some 0, 5, 3, none, false⟩]
  outer := [⟨0, 0, some 0, 0, 0, none, false⟩, ⟨0, 6, some 0, 0, 6, none, false⟩,
    ⟨1, 4, some 0, 0, 8, none, false⟩, ⟨1, 5, some 0, 0, 8, none, false⟩,
    ⟨1, 6, some 0, 0, 10, none, false⟩, ⟨1, 9, some 0, 0, 11, none, false⟩,
    ⟨1, 11, some 0, 0, 12, none, false⟩, ⟨2, 0, some 0, 0, 12, none, false⟩]

/-- The map has two tokens at one place. -/
def twiceMapped : Mapped where
  code := "a"
  map := "\x7b\"version\":3,\"sources\":[\"a.ts\"],\"names\":[],\"mappings\":\"AAAA,AAGA\"\x7d"
  inner := [⟨0, 0, some 0, 0, 0, none, false⟩, ⟨0, 0, some 0, 3, 0, none, false⟩]
  outer := [⟨0, 0, some 0, 0, 0, none, false⟩]

/-- The token of the map is a range token, and stands in front of the name. -/
def ranged : Mapped where
  code := "(a)"
  map := "\x7b\"version\":3,\"sources\":[\"a.ts\"],\"names\":[],\"mappings\":\"AAAA\","
    ++ "\"rangeMappings\":\"B\"\x7d"
  inner := [⟨0, 0, some 0, 0, 0, none, true⟩]
  outer := [⟨0, 0, some 0, 0, 0, none, false⟩, ⟨0, 1, some 0, 0, 1, none, false⟩,
    ⟨0, 2, some 0, 0, 2, none, false⟩]

/-- The text in front of the second name is printed with less space, so that what the map says of
this space comes to where the name is printed. -/
def spaced : Mapped where
  code := "a   +   b"
  map := "\x7b\"version\":3,\"sources\":[\"a.ts\"],\"names\":[],\"mappings\":\"IAAA,IACA\"\x7d"
  inner := [⟨0, 4, some 0, 0, 0, none, false⟩, ⟨0, 8, some 0, 1, 0, none, false⟩]
  outer := [⟨0, 0, some 0, 0, 0, none, false⟩, ⟨0, 4, some 0, 0, 8, none, false⟩]

/-- Without what is asked of the two maps, a composed map resolves a place to another one, or to
none. -/
theorem composed_misses :
    privateName.Misses ⟨1, 4, some 0, 0, 8, none, false⟩ ∧
    twiceMapped.Misses ⟨0, 0, some 0, 0, 0, none, false⟩ ∧
    ranged.Misses ⟨0, 1, some 0, 0, 1, none, false⟩ ∧
    spaced.Misses ⟨0, 4, some 0, 0, 8, none, false⟩ := by
  refine ⟨misses_of ⟨6, 3⟩ ?_ ?_ ?_ ?_ ?_, misses_of ⟨1, 0⟩ ?_ ?_ ?_ ?_ ?_,
    misses_of ⟨1, 1⟩ ?_ ?_ ?_ ?_ ?_, misses_of ⟨2, 0⟩ ?_ ?_ ?_ ?_ ?_⟩
  all_goals decide +kernel

end Mapped

end Transformer

end LoopGuard
