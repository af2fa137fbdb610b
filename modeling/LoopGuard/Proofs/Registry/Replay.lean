import LoopGuard.Proofs.Registry.History
import LoopGuard.Proofs.Registry.Known
import Mathlib.Data.Set.Card

/-!
# A registry is what its history says

Counters are kept in one list, which resets change in place, removals filter, and guards search. The
calls of any history, with whatever clock, leave in it one counter for every live key and no other:
described as the key became live, and with the time of the key's latest reset.

Results:
* `Registry.get?_remove`: a removal seen from one key.
* `Recalls.stepAt`, `History.recalls_replay`: counters and history go together.
* `History.replay_answers`: what a registry answers, told by its history.
-/

namespace LoopGuard

/-! ## Counters -/

namespace Registry

variable {r : Registry} {o : ResetOptions} {now : Instant} {key : String}

/-- The keys that there are counters of. -/
def keys (r : Registry) : List String := r.counters.map (·.key)

theorem keys_resetIn (o : ResetOptions) (now : Instant) (es : List CounterEntry) :
    (resetIn o now es).map (·.key) =
      if o.key ∈ es.map (·.key) then es.map (·.key) else es.map (·.key) ++ [o.key] := by
  induction es with
  | nil => rfl
  | cons e rest ih =>
    by_cases hkey : e.key = o.key
    · simp [resetIn, hkey]
    · have hkey' : o.key ≠ e.key := fun h => hkey h.symm
      simp only [resetIn, beq_iff_eq, hkey, if_false, List.map_cons, ih, List.mem_cons, hkey',
        false_or]
      split_ifs <;> rfl

theorem nodup_reset (h : r.keys.Nodup) : (r.reset o now).keys.Nodup := by
  show ((resetIn o now r.counters).map (·.key)).Nodup
  rw [keys_resetIn]
  by_cases hkey : o.key ∈ r.counters.map (·.key)
  · rw [if_pos hkey]
    exact h
  · rw [if_neg hkey, ← List.concat_eq_append]
    exact List.Nodup.concat hkey h

theorem nodup_remove (h : r.keys.Nodup) (p : CounterEntry → Bool) : (r.remove p).1.keys.Nodup := by
  have hsub : ((r.counters.filter (!p ·)).map (·.key)).Sublist r.keys :=
    List.filter_sublist.map _
  exact h.sublist hsub

theorem find?_filter {es : List CounterEntry} (h : (es.map (·.key)).Nodup)
    (p : CounterEntry → Bool) (key : String) :
    (es.filter (!p ·)).find? (·.key == key) = (es.find? (·.key == key)).filter (!p ·) := by
  induction es with
  | nil => rfl
  | cons e rest ih =>
    rw [List.map_cons, List.nodup_cons] at h
    have hrest := ih h.2
    by_cases hkey : e.key = key
    · have hnone : rest.find? (·.key == key) = none := by
        rw [List.find?_eq_none]
        intro e' he' hkey'
        rw [beq_iff_eq, ← hkey] at hkey'
        exact h.1 (hkey' ▸ List.mem_map_of_mem he')
      rw [hnone] at hrest
      cases hp : p e <;> simp [hp, hkey, hrest, Option.filter_some]
    · cases hp : p e <;> simp [hp, hkey, hrest]

/-- A removal takes the counter of a key away if it satisfies the condition. -/
theorem get?_remove (h : r.keys.Nodup) (p : CounterEntry → Bool) (key : String) :
    (r.remove p).1.get? key = (r.get? key).filter (!p ·) := find?_filter h p key

/-- Sweeping is a removal; if it is switched off, one of nothing. -/
theorem sweep_eq_remove (r : Registry) (now : Instant) :
    r.sweep now = r.remove fun e =>
      match r.idleTtl with
      | none => false
      | some ttl => decide ((e.elapsed now).nanoseconds > ttl.nanoseconds) := by
  unfold sweep
  cases r.idleTtl with
  | none => simp [remove]
  | some ttl => rfl

theorem isSome_get?_iff : (r.get? key).isSome = true ↔ key ∈ r.keys := by
  simp [get?, keys]

end Registry

/-! ## Replay -/

/-- Goes on by a call when the clock reads so. -/
def Session.stepAt (s : Session) (c : TimedCall) : Session × HostOutcome :=
  ({ s with clock := ⟨c.time.nanoseconds⟩, readsClock := true } : Session).step c.call

namespace History

variable {l : LoopLimits} {key : String} {c : TimedCall} {before : History}

/-- What a history makes of a new registry. -/
def replay (l : LoopLimits) : History → Session
  | [] => { registry := .withLimits l }
  | c :: before => ((replay l before).stepAt c).1

/-- What a call is answered after a history. -/
def answer (l : LoopLimits) (c : TimedCall) (before : History) : HostAnswer :=
  ((replay l before).stepAt c).2.answer

/-- The counter that a history says a key has. -/
def counter? (l : LoopLimits) (key : String) (h : History) : Option CounterEntry :=
  (birth? l key h).bind fun o =>
    (latest? key h).map fun t => ⟨key, o.file, o.line, o.column, t⟩

/-- What has a description has been reset. -/
theorem exists_latest? {h : History} {o : ResetOptions} (hbirth : birth? l key h = some o) :
    ∃ t, latest? key h = some t := by
  have hlive : Live l key h := live_iff_isSome_birth?.2 (by rw [hbirth]; rfl)
  exact Option.isSome_iff_exists.1 (isSome_latest?_of_live hlive)

theorem counter?_cons_of_kept (hreset : c.resetOf? key = none)
    (hkeeps : ∀ o, removes l key c before o = false) :
    counter? l key (c :: before) = counter? l key before := by
  rw [counter?, counter?, latest?_cons, birth?, hreset]
  cases birth? l key before <;> simp [hkeeps, Option.filter_some]

end History

open History

/-- Whether a registry has the counters that a history says it has, and the limits. -/
structure Recalls (l : LoopLimits) (h : History) (r : Registry) : Prop where
  nodup : r.keys.Nodup
  threshold : r.threshold = History.threshold l h
  idleTtl : r.idleTtl = l.idleTtl
  counter : ∀ key, r.get? key = counter? l key h

namespace Recalls

variable {l : LoopLimits} {key : String} {c : TimedCall} {before : History} {r : Registry}
  {s : Session}

theorem nil : Recalls l [] (.withLimits l) := ⟨.nil, rfl, rfl, fun _ => rfl⟩

theorem reset (hr : Recalls l before r) (o : ResetOptions) (now : Instant) :
    Recalls l (⟨now, .reset o⟩ :: before) (r.reset o now) where
  nodup := Registry.nodup_reset hr.nodup
  threshold := hr.threshold
  idleTtl := hr.idleTtl
  counter key := by
    by_cases hkey : o.key = key
    · subst hkey
      have hreset : TimedCall.resetOf? ⟨now, .reset o⟩ o.key = some o := if_pos rfl
      have hlatest : latest? o.key (⟨now, .reset o⟩ :: before) = some now := by
        rw [latest?_cons, hreset]
        rfl
      rw [Registry.get?_reset_self, hr.counter, counter?, counter?, birth?_cons_of_reset hreset,
        hlatest]
      cases hbirth : birth? l o.key before with
      | none => rfl
      | some b =>
        obtain ⟨t, ht⟩ := exists_latest? hbirth
        rw [ht]
        rfl
    · have hreset : TimedCall.resetOf? ⟨now, .reset o⟩ key = none := if_neg hkey
      have hkey' : key ≠ o.key := fun h => hkey h.symm
      rw [Registry.get?_reset_of_ne hkey', hr.counter, counter?_cons_of_kept hreset fun _ => rfl]

/-- A call that takes away the counters of the keys it removes. -/
theorem remove (hr : Recalls l before r) {p : CounterEntry → Bool}
    (hreset : ∀ key, c.resetOf? key = none) (hthreshold : c.threshold? = none)
    (hp : ∀ key o t, latest? key before = some t →
      p ⟨key, o.file, o.line, o.column, t⟩ = removes l key c before o) :
    Recalls l (c :: before) (r.remove p).1 where
  nodup := Registry.nodup_remove hr.nodup p
  threshold := by
    rw [threshold_cons, hthreshold]
    exact hr.threshold
  idleTtl := hr.idleTtl
  counter key := by
    rw [Registry.get?_remove hr.nodup, hr.counter, counter?, counter?, latest?_cons, hreset, birth?,
      hreset]
    cases hbirth : birth? l key before with
    | none => rfl
    | some o =>
      obtain ⟨t, ht⟩ := exists_latest? hbirth
      have ho := hp key o t ht
      cases hremoves : removes l key c before o <;> simp [ht, ho, hremoves, Option.filter_some]

/-- A call that removes nothing. -/
theorem skip (hr : Recalls l before r) (hreset : ∀ key, c.resetOf? key = none)
    (hthreshold : c.threshold? = none) (hkeeps : ∀ key o, removes l key c before o = false) :
    Recalls l (c :: before) r where
  nodup := hr.nodup
  threshold := by
    rw [threshold_cons, hthreshold]
    exact hr.threshold
  idleTtl := hr.idleTtl
  counter key := by rw [hr.counter, counter?_cons_of_kept (hreset key) (hkeeps key)]

theorem setThreshold (hr : Recalls l before r) (now : Instant) (d : Duration) :
    Recalls l (⟨now, .setThreshold d⟩ :: before) { r with threshold := d } where
  nodup := hr.nodup
  threshold := rfl
  idleTtl := hr.idleTtl
  counter key := (hr.counter key).trans (counter?_cons_of_kept rfl fun _ => rfl).symm

/-- Whom tripped loops are told to does not matter. -/
theorem withSink (hr : Recalls l before r) (sink : Option HitSink) :
    Recalls l before { r with sink } := ⟨hr.nodup, hr.threshold, hr.idleTtl, hr.counter⟩

theorem clear (hr : Recalls l before r) (now : Instant) :
    Recalls l (⟨now, .clear⟩ :: before) r.clear := by
  have hremove : Recalls l (⟨now, .clear⟩ :: before) (r.remove fun _ => true).1 :=
    hr.remove (fun _ => rfl) rfl fun _ _ _ _ => rfl
  have hclear : (r.remove fun _ => true).1 = r.clear := by
    simp [Registry.remove, Registry.clear]
  rw [← hclear]
  exact hremove

theorem forgetFile (hr : Recalls l before r) (now : Instant) (file : String) :
    Recalls l (⟨now, .forgetFile file⟩ :: before) (r.forgetFile file).1 :=
  hr.remove (fun _ => rfl) rfl fun _ _ _ _ => rfl

theorem sweep (hr : Recalls l before r) (now : Instant) :
    Recalls l (⟨now, .sweep⟩ :: before) (r.sweep now).1 := by
  rw [Registry.sweep_eq_remove]
  refine hr.remove (fun _ => rfl) rfl fun key o t ht => ?_
  have hremoves : removes l key ⟨now, .sweep⟩ before o = overdue l key now before := rfl
  rw [hremoves, overdue, hr.idleTtl, ht]
  cases l.idleTtl <;> rfl

/-- Every call keeps counters and history together. -/
theorem stepAt (hr : Recalls l before s.registry) (c : TimedCall) :
    Recalls l (c :: before) (s.stepAt c).1.registry := by
  obtain ⟨now, call⟩ := c
  cases call with
  | reset o => exact hr.reset o now
  | setThreshold d => exact hr.setThreshold now d
  | clear => exact hr.clear now
  | forgetFile file => exact hr.forgetFile now file
  | sweep => exact hr.sweep now
  | guard key =>
    show Recalls l _ (Session.guard _ key).1.registry
    rw [Session.registry_guard]
    exact hr.skip (fun _ => rfl) rfl fun _ _ => rfl
  | receive =>
    have hskip : Recalls l (⟨now, .receive⟩ :: before) s.registry :=
      hr.skip (fun _ => rfl) rfl fun _ _ => rfl
    simp only [Session.stepAt, Session.step]
    split <;> exact hskip
  | onHit | forwardHits => exact (hr.skip (fun _ => rfl) rfl fun _ _ => rfl).withSink _
  | _ => exact hr.skip (fun _ => rfl) rfl fun _ _ => rfl

end Recalls

theorem History.recalls_replay (l : LoopLimits) (h : History) :
    Recalls l h (replay l h).registry := by
  induction h with
  | nil => exact .nil
  | cons c before ih => exact ih.stepAt c

/-! ## Answers -/

namespace Recalls

variable {l : LoopLimits} {key : String} {h : History} {r : Registry}

theorem isSome_get?_iff (hr : Recalls l h r) : (r.get? key).isSome = true ↔ Live l key h := by
  rw [live_iff_isSome_birth?, hr.counter, counter?]
  cases hbirth : birth? l key h with
  | none => rfl
  | some o =>
    obtain ⟨t, ht⟩ := exists_latest? hbirth
    simp [ht]

/-- The counter of a key: its description, and the time of its latest reset. -/
theorem of_get? {e : CounterEntry} (hr : Recalls l h r) (he : r.get? key = some e) :
    e.key = key ∧ latest? key h = some e.lastReset ∧
      ∃ o, Born l key o h ∧ e.file = o.file ∧ e.line = o.line ∧ e.column = o.column := by
  rw [hr.counter, counter?] at he
  obtain ⟨o, hbirth, he⟩ := Option.bind_eq_some_iff.1 he
  obtain ⟨t, ht, rfl⟩ := Option.map_eq_some_iff.1 he
  exact ⟨rfl, ht, o, born_iff_birth?.2 hbirth, rfl, rfl, rfl⟩

/-- There are as many counters as live keys. -/
theorem encard_live (hr : Recalls l h r) : {key | Live l key h}.encard = r.length := by
  have hset : {key | Live l key h} = (r.keys.toFinset : Set String) := by
    ext key
    rw [Set.mem_ofPred_eq, ← hr.isSome_get?_iff, Registry.isSome_get?_iff]
    simp
  rw [hset, Set.encard_coe_eq_coe_finsetCard, List.toFinset_card_of_nodup hr.nodup,
    Registry.keys, List.length_map, Registry.length]

/-- A removal answers how many keys are no longer live. -/
theorem encard_removed {before : History} {c : TimedCall} {p : CounterEntry → Bool}
    (hr : Recalls l before r) (hr' : Recalls l (c :: before) (r.remove p).1)
    (hreset : ∀ key, c.resetOf? key = none) :
    {key | Live l key before ∧ ¬ Live l key (c :: before)}.encard = (r.remove p).2 := by
  have hsub : {key | Live l key (c :: before)} ⊆ {key | Live l key before} := by
    intro key hlive
    rcases since_cons.1 hlive with hc | hbefore
    · rw [hreset] at hc
      cases hc
    · exact hbefore.1
  have hcount : ((r.remove p).1.length : ENat) + (r.remove p).2 = r.length := by
    exact_mod_cast Registry.length_remove r p
  have hsum := Set.encard_sdiff_add_encard_of_subset hsub
  rw [hr.encard_live, hr'.encard_live, ← hcount, add_comm] at hsum
  exact ENat.add_right_injective_of_ne_top (ENat.natCast_ne_top _) hsum

end Recalls

namespace History

variable {l : LoopLimits} {key : String} {now : Instant} {h : History}

theorem answer_guard_of_not_live (hlive : ¬ Live l key h) :
    answer l ⟨now, .guard key⟩ h = .unknownKey key := by
  have hr := recalls_replay l h
  rw [← hr.isSome_get?_iff, Bool.not_eq_true, Option.isSome_eq_false_iff,
    Option.isNone_iff_eq_none] at hlive
  show (Session.guard _ key).2.answer = _
  rw [Session.answer_guard]
  dsimp only
  rw [hlive]

theorem answer_guard_of_live {t : Instant} (hlive : Live l key h) (ht : latest? key h = some t) :
    answer l ⟨now, .guard key⟩ h =
      .flag (decide ((threshold l h).nanoseconds ≤ (now.since t).nanoseconds)) := by
  have hr := recalls_replay l h
  obtain ⟨e, he⟩ := Option.isSome_iff_exists.1 (hr.isSome_get?_iff.2 hlive)
  have hlast : some t = some e.lastReset := ht.symm.trans (hr.of_get? he).2.1
  show (Session.guard _ key).2.answer = _
  rw [Session.answer_guard]
  dsimp only
  rw [he, hr.threshold, Option.some.inj hlast]
  rfl

/-- A registry holds what its history says, and answers accordingly: which keys are live and with
what description, whether a loop has run for too long since its latest reset, how many keys are
live, and how many of them a removal takes away. -/
theorem replay_answers (l : LoopLimits) (h : History) :
    (∀ key, ((replay l h).registry.get? key).isSome = true ↔ Live l key h) ∧
    (∀ key e, (replay l h).registry.get? key = some e →
      e.key = key ∧ latest? key h = some e.lastReset ∧
        ∃ o, Born l key o h ∧ e.file = o.file ∧ e.line = o.line ∧ e.column = o.column) ∧
    (∀ key now, answer l ⟨now, .guard key⟩ h = .unknownKey key ↔ ¬ Live l key h) ∧
    (∀ key now, Live l key h → ∃ t, latest? key h = some t ∧
      answer l ⟨now, .guard key⟩ h =
        .flag (decide ((threshold l h).nanoseconds ≤ (now.since t).nanoseconds))) ∧
    {key | Live l key h}.encard = (replay l h).registry.length ∧
    (∀ now file, ∃ n : Nat, answer l ⟨now, .forgetFile file⟩ h = .count n ∧
      {key | Live l key h ∧ ¬ Live l key (⟨now, .forgetFile file⟩ :: h)}.encard = n) ∧
    (∀ now, ∃ n : Nat, answer l ⟨now, .sweep⟩ h = .count n ∧
      {key | Live l key h ∧ ¬ Live l key (⟨now, .sweep⟩ :: h)}.encard = n) := by
  have hr := recalls_replay l h
  refine ⟨fun key => hr.isSome_get?_iff, fun key e he => hr.of_get? he, fun key now => ⟨?_, ?_⟩,
    fun key now hlive => ?_, hr.encard_live, fun now file => ?_, fun now => ?_⟩
  · intro hanswer hlive
    obtain ⟨t, ht⟩ := Option.isSome_iff_exists.1 (isSome_latest?_of_live hlive)
    rw [answer_guard_of_live hlive ht] at hanswer
    cases hanswer
  · exact answer_guard_of_not_live
  · obtain ⟨t, ht⟩ := Option.isSome_iff_exists.1 (isSome_latest?_of_live hlive)
    exact ⟨t, ht, answer_guard_of_live hlive ht⟩
  · exact ⟨_, rfl, hr.encard_removed (hr.forgetFile now file) fun _ => rfl⟩
  · have hsweep := hr.sweep now
    rw [Registry.sweep_eq_remove] at hsweep
    refine ⟨((replay l h).registry.sweep now).2, rfl, ?_⟩
    rw [Registry.sweep_eq_remove]
    exact hr.encard_removed hsweep fun _ => rfl

end History

end LoopGuard
