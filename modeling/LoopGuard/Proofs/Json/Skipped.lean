import LoopGuard.Proofs.Json.Numbers
import LoopGuard.Proofs.Json.Strings

/-!
# Values that are skipped

A value is skipped to its end, however deep its containers are: a step of skipping looks only at the
innermost container, and the steps that a value takes are bounded by its length.

Results:
* `Reader.leads_skipFrom_value`: the steps that skip a value.
* `Reader.reads_skip`: values are skipped.
-/

namespace LoopGuard

namespace Json

namespace Reader

variable {cs cs₁ rest : List Char} {b : Bracket} {outer : List Bracket} {fuel : Nat}

/-! ## Values that are no containers -/

theorem reads_skipScalar (h : IsScalar cs rest) (hrest : IsEnd rest) :
    Reads skipScalar cs () rest := by
  refine (reads_peek cs).bind ?_
  cases h with
  | null => exact reads_word ['n', 'u', 'l', 'l'] rest
  | true => exact reads_word ['t', 'r', 'u', 'e'] rest
  | false => exact reads_word ['f', 'a', 'l', 's', 'e'] rest
  | @negative cs _ h => exact (reads_drop '-' cs).bind (reads_skipNumber h hrest)
  | @string cs _ h => exact (reads_drop '"' cs).bind (reads_skipString h)
  | number h =>
    have hskip := reads_skipNumber h hrest
    obtain ⟨c, ds, rfl, hc⟩ := h.exists_cons
    rw [List.head?_cons]
    split
    · next heq => cases heq; cases hc
    · next heq => cases heq; cases hc
    · next heq => cases heq; cases hc
    · next heq => cases heq; cases hc
    · next heq => cases heq; cases hc
    · next heq =>
      cases heq
      rw [if_pos hc]
      exact hskip
    · next heq => cases heq

/-- A value that is no container does not start with a bracket. -/
theorem IsScalar.exists_cons (h : IsScalar cs rest) :
    ∃ c ds, cs = c :: ds ∧ opened? c = none := by
  cases h with
  | null => exact ⟨'n', _, rfl, rfl⟩
  | true => exact ⟨'t', _, rfl, rfl⟩
  | false => exact ⟨'f', _, rfl, rfl⟩
  | negative _ => exact ⟨'-', _, rfl, rfl⟩
  | string _ => exact ⟨'"', _, rfl, rfl⟩
  | number h =>
    obtain ⟨c, ds, rfl, hc⟩ := h.exists_cons
    refine ⟨c, ds, rfl, ?_⟩
    unfold opened?
    split
    · cases hc
    · cases hc
    · rfl

theorem IsScalar.length_lt (h : IsScalar cs rest) : rest.length < cs.length := by
  cases h with
  | number h => exact h.length_lt
  | negative h => exact Nat.lt_succ_of_lt h.length_lt
  | string h => exact Nat.lt_succ_of_lt h.length_lt
  | _ => simp; omega

/-! ## Steps -/

/-- Skips an item of a container, and what follows it. -/
def skipItem (b : Bracket) (fuel : Nat) (outer : List Bracket) : Reader Unit := do
  if b == .object then skipKey
  skipFrom fuel .value (b :: outer)

theorem leads_skipFrom_open (hspaces : Spaces cs (b.opener :: rest)) :
    Leads (skipFrom (fuel + 1) .value outer) (skipFrom fuel .first (b :: outer)) cs rest := by
  rw [skipFrom]
  cases b with
  | array =>
    exact Leads.bind (hspaces.token_cons (by decide)) (Leads.bind (reads_drop '[' rest) (.refl _ _))
  | object =>
    exact Leads.bind (hspaces.token_cons (by decide))
      (Leads.bind (reads_drop '\x7b' rest) (.refl _ _))

theorem leads_skipFrom_scalar (h : IsScalar cs rest) (hrest : IsEnd rest)
    (hspaces : Spaces cs₁ cs) :
    Leads (skipFrom (fuel + 1) .value outer) (skipFrom fuel .more outer) cs₁ rest := by
  have hskip := reads_skipScalar h hrest
  obtain ⟨c, ds, rfl, hopened⟩ := IsScalar.exists_cons h
  obtain ⟨c', ds', heq, hspace, -⟩ := (IsValue.scalar h).exists_cons
  obtain ⟨rfl, rfl⟩ := List.cons_eq_cons.1 heq
  rw [skipFrom]
  refine Leads.bind (hspaces.token_cons hspace) ?_
  rw [Option.bind_some, hopened]
  exact Leads.bind hskip (.refl _ rest)

theorem closes_closer (b : Bracket) : closes b b.closer = true := by cases b <;> rfl

theorem closes_eq_false {c : Char} (h : c ≠ b.closer) : closes b c = false := by
  cases b <;> simpa [closes, Bracket.closer] using h

/-- What follows a closing bracket that is tested for. -/
theorem leads_closer {closed other : Reader Unit} (b : Bracket) (rest : List Char) :
    Leads (if closes b b.closer then drop >>= fun _ => closed else other) closed (b.closer :: rest)
      rest := by
  rw [if_pos (closes_closer b)]
  exact Leads.bind (reads_drop _ rest) (.refl _ rest)

theorem leads_skipFrom_first_close (hspaces : Spaces cs (b.closer :: rest)) :
    Leads (skipFrom (fuel + 1) .first (b :: outer)) (skipFrom fuel .more outer) cs rest := by
  rw [skipFrom]
  exact Leads.bind (hspaces.token_cons (by cases b <;> decide)) (leads_closer b rest)

theorem leads_skipFrom_first_items (h : IsItems b cs rest) :
    Leads (skipFrom (fuel + 1) .first (b :: outer)) (skipItem b fuel outer) cs
      (cs.dropWhile isSpace) := by
  obtain ⟨c, ds, hspaces, hspace, hc⟩ := h.exists_cons
  rw [skipFrom, hspaces.dropWhile (by simpa using hspace)]
  refine Leads.bind (hspaces.token_cons hspace) ?_
  show Leads (if closes b c = true then _ else _) _ _ _
  rw [if_neg (by simp [closes_eq_false hc])]
  exact .refl _ _

theorem leads_skipFrom_more_close (hspaces : Spaces cs (b.closer :: rest)) :
    Leads (skipFrom (fuel + 1) .more (b :: outer)) (skipFrom fuel .more outer) cs rest := by
  rw [skipFrom]
  exact Leads.bind (hspaces.token_cons (by cases b <;> decide)) (leads_closer b rest)

theorem leads_skipFrom_more_item (hspaces : Spaces cs (',' :: rest)) :
    Leads (skipFrom (fuel + 1) .more (b :: outer)) (skipItem b fuel outer) cs rest := by
  rw [skipFrom]
  refine Leads.bind (hspaces.token_cons (by decide)) ?_
  show Leads (if closes b ',' = true then _ else _) _ _ _
  rw [if_neg (by cases b <;> decide), beq_self_eq_true, if_pos rfl]
  exact Leads.bind (reads_drop ',' rest) (.refl _ rest)

theorem reads_colon (hspaces : Spaces cs (':' :: rest)) : Reads colon cs () rest :=
  (hspaces.token_cons (by decide)).bind (reads_drop ':' rest)

theorem reads_skipKey {cs₂ : List Char} (hspaces : Spaces cs ('"' :: cs₁)) (hkey : IsString cs₁ cs₂)
    (hcolon : Spaces cs₂ (':' :: rest)) : Reads skipKey cs () rest :=
  (hspaces.token_cons (by decide)).bind
    ((reads_drop '"' cs₁).bind ((reads_skipString hkey).bind (reads_colon hcolon)))

/-! ## Values -/

mutual

/-- A value is skipped in fewer steps than twice its length. -/
theorem leads_skipFrom_value {cs rest : List Char} (hrest : IsEnd rest) :
    IsValue cs rest → ∃ k, k + 1 + 2 * rest.length ≤ 2 * cs.length ∧
      ∀ fuel outer cs', Spaces cs' cs →
        Leads (skipFrom (fuel + k) .value outer) (skipFrom fuel .more outer) cs' rest
  | .scalar h => by
    have := IsScalar.length_lt h
    exact ⟨1, by omega, fun fuel outer cs' hspaces => leads_skipFrom_scalar h hrest hspaces⟩
  | .empty b h => by
    have := h.length_le
    simp only [List.length_cons] at this ⊢
    refine ⟨2, by omega, fun fuel outer cs' hspaces => ?_⟩
    exact (leads_skipFrom_open hspaces).trans (leads_skipFrom_first_close h)
  | .container b h => by
    obtain ⟨k, hk, hleads⟩ := leads_skipItem_items h
    simp only [List.length_cons]
    refine ⟨k + 2, by omega, fun fuel outer cs' hspaces => ?_⟩
    exact (leads_skipFrom_open hspaces).trans
      ((leads_skipFrom_first_items h).trans (hleads fuel outer _ (.inr rfl)))

theorem leads_skipItem_items {b : Bracket} {cs rest : List Char} :
    IsItems b cs rest → ∃ k, k + 2 + 2 * rest.length ≤ 2 * cs.length ∧
      ∀ fuel outer cs', (cs' = cs ∨ cs' = cs.dropWhile isSpace) →
        Leads (skipItem b (fuel + k) outer) (skipFrom fuel .more outer) cs' rest
  | .last h hspaces => by
    obtain ⟨k, hk, hleads⟩ := leads_skipItem (hspaces.isEnd (by cases b <;> decide)) h
    have := hspaces.length_le
    simp only [List.length_cons] at this
    refine ⟨k + 1, by omega, fun fuel outer cs' hcs' => ?_⟩
    rw [Nat.add_comm k 1, ← Nat.add_assoc]
    exact (hleads (fuel + 1) outer cs' hcs').trans (leads_skipFrom_more_close hspaces)
  | .more h hspaces h' => by
    obtain ⟨k, hk, hleads⟩ := leads_skipItem (hspaces.isEnd (.inl rfl)) h
    obtain ⟨k', hk', hleads'⟩ := leads_skipItem_items h'
    have := hspaces.length_le
    simp only [List.length_cons] at this
    refine ⟨k' + 1 + k, by omega, fun fuel outer cs' hcs' => ?_⟩
    rw [← Nat.add_assoc, ← Nat.add_assoc]
    exact (hleads (fuel + k' + 1) outer cs' hcs').trans
      ((leads_skipFrom_more_item hspaces).trans (hleads' fuel outer _ (.inl rfl)))

theorem leads_skipItem {b : Bracket} {cs rest : List Char} (hrest : IsEnd rest) :
    IsItem b cs rest → ∃ k, k + 1 + 2 * rest.length ≤ 2 * cs.length ∧
      ∀ fuel outer cs', (cs' = cs ∨ cs' = cs.dropWhile isSpace) →
        Leads (skipItem b (fuel + k) outer) (skipFrom fuel .more (b :: outer)) cs' rest
  | .element hspaces h => by
    obtain ⟨k, hk, hleads⟩ := leads_skipFrom_value hrest h
    have := hspaces.length_le
    obtain ⟨c, ds, rfl, hspace, -⟩ := h.exists_cons
    exact ⟨k, by omega, fun fuel outer cs' hcs' =>
      hleads fuel (.array :: outer) _ (hspaces.of_skipped hspace hcs')⟩
  | .member hspaces hkey hcolon hspaces' h => by
    obtain ⟨k, hk, hleads⟩ := leads_skipFrom_value hrest h
    have hspaces_le := hspaces.length_le
    have hkey_lt := hkey.length_lt
    have hcolon_le := hcolon.length_le
    have hspaces'_le := hspaces'.length_le
    simp only [List.length_cons] at hspaces_le hcolon_le
    refine ⟨k, by omega, fun fuel outer cs' hcs' => ?_⟩
    exact Leads.bind (reads_skipKey (hspaces.of_skipped (by decide) hcs') hkey hcolon)
      (hleads fuel (.object :: outer) _ hspaces')

end

theorem reads_skip (h : IsValue cs rest) (hrest : IsEnd rest) (hspaces : Spaces cs₁ cs) :
    Reads skip cs₁ () rest := by
  obtain ⟨k, hk, hleads⟩ := leads_skipFrom_value hrest h
  have hle := hspaces.length_le
  have hsteps : Leads (skipFrom (3 * cs₁.length + 2 - k + 1 + k) .value [])
      (skipFrom (3 * cs₁.length + 2 - k + 1) .more []) cs₁ rest :=
    hleads (3 * cs₁.length + 2 - k + 1) [] cs₁ hspaces
  have hfuel : 3 * cs₁.length + 2 - k + 1 + k = 3 * cs₁.length + 3 := by omega
  rw [hfuel] at hsteps
  have hskip := leads_length (fun n => skipFrom (3 * n + 3) .value []) cs₁
  exact (hskip.trans hsteps).reads (.pure () rest)

end Reader

end Json

end LoopGuard
