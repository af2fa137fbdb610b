import LoopGuard.Proofs.Registry.Host

/-!
# Hits

A registry tells of a loop that has run for too long by one event and, if a callback or a channel
was registered with it, by one delivery. What is registered once is told of the loops that are found
to have run for too long from then on until the next registration.

Results:
* `Host.tells_of_tripped`, `Host.silent_of_not_tripped`: what a step says of hits.
* `Host.callbackHits_eq`, `Host.received_append_waiting`: what a callback was told, and what has
  gone through a channel.
* `Host.trippedFor_span`: the hits between two registrations.
* `Host.hits_delivered_once`: the hits of a run.
-/

namespace LoopGuard

namespace Host

/-! ## What is said of hits -/

/-- The counter of the loop that an act finds to have run for too long. -/
def tripped (h : Host) (a : HostAct) : Option CounterEntry :=
  match a with
  | .call (.guard key) =>
    if (h.step (.call (.guard key))).2.answer = .flag true then h.registry.get? key else none
  | _ => none

/-- The loops that have run for too long. -/
def trips (h : Host) : List HostAct → List CounterEntry := h.collect fun h a => (h.tripped a).toList

/-- What a callback was told. -/
def callbackHits (name : String) (h : Host) : List HostAct → List CounterEntry :=
  h.collect fun h a => ((h.step a).2.hits.filter (·.1 == name)).map (·.2)

/-- Whether an act takes what waits in a channel. -/
def takes (h : Host) (channel : Nat) : HostAct → Bool
  | .take id => id == channel
  | .call .receive => channel + 1 == h.inboxes.length
  | _ => false

/-- Whether an act makes a channel. -/
def opens (h : Host) (channel : Nat) : HostAct → Bool
  | .call .forwardHits => channel == h.inboxes.length
  | _ => false

/-- Whether an act drops the receiving end of a channel. -/
def closes (h : Host) (channel : Nat) : HostAct → Bool
  | .drop id => id == channel
  | .call .dropReceiver => channel + 1 == h.inboxes.length
  | _ => false

/-- What was taken from a channel. -/
def received (channel : Nat) (h : Host) : List HostAct → List CounterEntry :=
  h.collect fun h a => if h.takes channel a then (h.step a).2.answer.received else []

/-- The callback or channel that an act registers. -/
def registered? (h : Host) : HostAct → Option HitSink
  | .call (.onHit name) => some (.callback name)
  | .call .forwardHits => some (.channel h.inboxes.length)
  | .forwardTo id => if id < h.inboxes.length then some (.channel id) else none
  | _ => none

/-- All the callbacks and channels that are registered in a run. -/
def registrations (h : Host) : List HostAct → List HitSink :=
  h.collect fun h a => (h.registered? a).toList

/-- What is registered last, if at first `sink` was. -/
def lastRegistered (sink : Option HitSink) (h : Host) : List HostAct → Option HitSink
  | [] => sink
  | a :: rest => lastRegistered ((h.registered? a).or sink) (h.step a).1 rest

/-- The loops that have run for too long while `k` was what had been registered last. -/
def trippedFor (k : HitSink) (sink : Option HitSink) (h : Host) : List HostAct → List CounterEntry
  | [] => []
  | a :: rest =>
    (if sink = some k then (h.tripped a).toList else []) ++
      trippedFor k ((h.registered? a).or sink) (h.step a).1 rest

/-- An act tells of a loop: by one event, and by one delivery if there is someone to tell. -/
structure Tells (h : Host) (a : HostAct) (e : CounterEntry) : Prop where
  events : (h.step a).2.events = [.overBudget e (e.elapsed h.session.now).millis]
  hits : (h.step a).2.hits =
    match h.registry.sink with
    | some (.callback name) => [(name, e)]
    | _ => []
  inboxes : (h.step a).1.inboxes =
    match h.registry.sink with
    | some (.channel id) => h.inboxes.modify id (Option.map (· ++ [e]))
    | _ => h.inboxes

/-- An act tells of no loop, and puts nothing into a channel. -/
structure Silent (h : Host) (a : HostAct) : Prop where
  events : ∀ e ms, .overBudget e ms ∉ (h.step a).2.events
  hits : (h.step a).2.hits = []
  inboxes : ∀ id es, (h.step a).1.inbox? id = some es → es = [] ∨ h.inbox? id = some es

variable {h : Host} {a : HostAct} {id : Nat} {k : HitSink}

/-! ## One act -/

theorem tripped_guard (h : Host) (key : String) :
    h.tripped (.call (.guard key)) =
      match h.registry.guard key h.session.now with
      | .tripped e _ => some e
      | _ => none := by
  show (if (h.session.guard key).2.answer = .flag true then h.registry.get? key else none) = _
  rcases guard_cases h key with ⟨e, hget, hguard⟩ | ⟨-, hanswer, -⟩
  · rw [guard_of_tripped hguard, if_pos rfl, hguard, hget]
  · rw [if_neg hanswer]
    cases hguard : h.registry.guard key h.session.now with
    | tripped e d =>
      rw [guard_of_tripped hguard] at hanswer
      exact absurd rfl hanswer
    | unknownKey | within => rfl

/-- A loop that has run for too long is told of once. -/
theorem tells_of_tripped {e : CounterEntry} (htrip : h.tripped a = some e) : Tells h a e := by
  unfold tripped at htrip
  split at htrip
  · next key =>
    change h.tripped (.call (.guard key)) = some e at htrip
    rw [tripped_guard] at htrip
    rcases guard_cases h key with ⟨e', -, hguard⟩ | ⟨-, hanswer, -⟩
    · rw [hguard] at htrip
      obtain rfl : e' = e := Option.some.inj htrip
      have hstep : (h.step (.call (.guard key))).2 = (h.session.guard key).2 := rfl
      have hinboxes : (h.step (.call (.guard key))).1.inboxes = h.inboxesAfter (.guard key) := rfl
      constructor
      · rw [hstep, guard_of_tripped hguard]
      · rw [hstep, guard_of_tripped hguard]
        exact Session.deliver_snd h.session e'
      · rw [hinboxes, inboxesAfter, hguard]
        rfl
    · split at htrip
      · next hguard =>
        rw [guard_of_tripped hguard] at hanswer
        exact absurd rfl hanswer
      · cases htrip
  · cases htrip

/-- What an act does to a channel. -/
theorem inbox?_step (h : Host) (a : HostAct) (id : Nat) :
    (h.step a).1.inbox? id =
      if h.opens id a then some []
      else if h.closes id a then none
      else if h.takes id a then (h.inbox? id).map fun _ => []
      else (h.inbox? id).map (· ++ if h.registry.sink = some (.channel id) then
        (h.tripped a).toList else []) := by
  -- The channel made last is the one with the greatest number.
  have hlast (hkept : h.inboxes[id]?.join ≠ none) :
      h.inboxes.length - 1 = id ↔ id + 1 = h.inboxes.length := by
    have hlt : id < h.inboxes.length := by
      apply Nat.lt_of_not_le
      intro hge
      rw [List.getElem?_eq_none hge] at hkept
      exact hkept rfl
    omega
  cases a with
  | call c =>
    cases c with
    | guard key =>
      show (h.inboxesAfter (.guard key))[id]?.join = (h.inbox? id).map _
      rcases guard_cases h key with ⟨e, -, hguard⟩ | ⟨-, hanswer, -, -, hinboxes⟩
      · rw [tripped_guard, inboxesAfter, hguard]
        exact join_getElem?_deliver h e id
      · have htrip : h.tripped (.call (.guard key)) = none := if_neg hanswer
        rw [hinboxes, htrip]
        simp [inbox?]
    | forwardHits =>
      show (h.inboxes ++ [some []])[id]?.join = _
      by_cases hid : id = h.inboxes.length
      · subst hid
        simp [opens]
      · have hsame : (h.inboxes ++ [some []])[id]? = h.inboxes[id]? := by
          by_cases hlt : id < h.inboxes.length
          · exact List.getElem?_append_left hlt
          · rw [List.getElem?_eq_none (by simp; omega), List.getElem?_eq_none (by omega)]
        rw [hsame]
        simp [opens, closes, takes, tripped, inbox?, hid]
    | receive | dropReceiver =>
      show (h.inboxes.modify (h.inboxes.length - 1) _)[id]?.join = _
      rw [join_getElem?_modify rfl]
      by_cases hkept : h.inboxes[id]?.join = none
      · simp [opens, closes, takes, tripped, inbox?, hkept]
      · simp [opens, closes, takes, tripped, inbox?, hlast hkept]
    | _ => simp [step, inbox?, inboxesAfter, opens, closes, takes, tripped]
  | take channel | drop channel =>
    show (h.inboxes.modify channel _)[id]?.join = _
    rw [join_getElem?_modify rfl]
    simp [opens, closes, takes, tripped, inbox?]
  | forwardTo channel =>
    have hsame : (h.step (.forwardTo channel)).1.inboxes = h.inboxes := by
      simp only [step]
      split <;> rfl
    simp [opens, closes, takes, tripped, inbox?, hsame]

theorem hits_of_not_tripped (htrip : h.tripped a = none) :
    (h.step a).2.hits = [] ∧ ∀ e ms, .overBudget e ms ∉ (h.step a).2.events := by
  cases a with
  | call c =>
    cases c with
    | guard key =>
      rw [tripped_guard] at htrip
      rcases guard_cases h key with ⟨e, -, hguard⟩ | ⟨-, -, hhits, hevents, -⟩
      · rw [hguard] at htrip
        cases htrip
      · show (h.session.guard key).2.hits = [] ∧ ∀ e ms, _ ∉ (h.session.guard key).2.events
        rw [hhits, hevents]
        exact ⟨rfl, fun e d => List.not_mem_nil⟩
    | sweep =>
      refine ⟨rfl, fun e d hmem => ?_⟩
      simp only [step, Session.step] at hmem
      split at hmem <;> simp at hmem
    | receive =>
      simp only [step, Session.step]
      split <;> simp
    | _ => simp [step, Session.step]
  | forwardTo channel =>
    simp only [step]
    split <;> simp
  | take | drop => simp [step]

/-- Nothing else is told as a hit. -/
theorem silent_of_not_tripped (htrip : h.tripped a = none) : Silent h a where
  events := (hits_of_not_tripped htrip).2
  hits := (hits_of_not_tripped htrip).1
  inboxes id es hinbox := by
    rw [inbox?_step, htrip] at hinbox
    split at hinbox
    · exact .inl (Option.some.inj hinbox).symm
    · split at hinbox
      · cases hinbox
      · split at hinbox
        · obtain ⟨-, -, hes⟩ := Option.map_eq_some_iff.1 hinbox
          exact .inl hes.symm
        · right
          simpa using hinbox

theorem answer_of_tripped (h : Host) (key : String) :
    (h.step (.call (.guard key))).2.answer = .flag true ↔
      ∃ e, h.tripped (.call (.guard key)) = some e ∧ h.registry.get? key = some e := by
  unfold tripped
  dsimp only
  constructor
  · intro hanswer
    rw [if_pos hanswer]
    rcases guard_cases h key with ⟨e, hget, -⟩ | ⟨-, hother, -⟩
    · exact ⟨e, hget, hget⟩
    · exact absurd hanswer hother
  · rintro ⟨e, htrip, -⟩
    split at htrip
    · assumption
    · cases htrip

/-! ## What is registered -/

theorem sink_step (h : Host) (a : HostAct) :
    (h.step a).1.registry.sink = (h.registered? a).or h.registry.sink := by
  cases a with
  | call c =>
    cases c with
    | guard key =>
      show (h.session.guard key).1.registry.sink = _
      rw [Session.registry_guard]
      rfl
    | receive =>
      simp only [step, Session.step, registered?]
      split <;> rfl
    | sweep =>
      show (h.registry.sweep _).1.sink = _
      unfold Registry.sweep
      split <;> rfl
    | _ => rfl
  | forwardTo channel =>
    unfold registered?
    simp only [step]
    split <;> rfl
  | take | drop => rfl

/-- An act that registers something is no guard. -/
theorem tripped_of_registered (hreg : (h.registered? a).isSome = true) : h.tripped a = none := by
  unfold registered? at hreg
  split at hreg <;> first | rfl | cases hreg

theorem registered?_of_not_registers (hreg : a.registers = false) : h.registered? a = none := by
  unfold HostAct.registers at hreg
  unfold registered?
  split <;> first | rfl | cases hreg

/-- Whether the channel that is registered has been made. -/
def Made (h : Host) : Prop := ∀ id, h.registry.sink = some (.channel id) → id < h.inboxes.length

theorem Made.step (hmade : h.Made) (a : HostAct) : (h.step a).1.Made := by
  intro id hsink
  rw [sink_step] at hsink
  have hlength := length_step h a
  cases hreg : h.registered? a with
  | none =>
    rw [hreg] at hsink
    have := hmade id hsink
    omega
  | some sink =>
    rw [hreg] at hsink
    cases hsink
    unfold registered? at hreg
    split at hreg
    · cases hreg
    · cases hreg
      show h.inboxes.length < (h.inboxes ++ [some []]).length
      simp
    · split at hreg
      · cases hreg
        omega
      · cases hreg
    · cases hreg

/-! ## Runs -/

section

variable {α : Type} {f g : Host → HostAct → List α}

theorem collect_congr (hfg : ∀ h a, f h a = g h a) (h : Host) (run : List HostAct) :
    h.collect f run = h.collect g run := by
  induction run generalizing h with
  | nil => rfl
  | cons a rest ih => rw [collect, collect, hfg, ih]

theorem after_append (h : Host) (xs ys : List HostAct) :
    h.after (xs ++ ys) = (h.after xs).after ys := by
  induction xs generalizing h with
  | nil => rfl
  | cons a rest ih => exact ih _

end

/-- What the registry has for its sink is what was registered last. -/
theorem trippedFor_eq (k : HitSink) (h : Host) (run : List HostAct) :
    h.trippedFor k h.registry.sink run =
      h.collect (fun h a => if h.registry.sink = some k then (h.tripped a).toList else []) run := by
  induction run generalizing h with
  | nil => rfl
  | cons a rest ih => rw [trippedFor, collect, ← sink_step, ih]

/-- A callback is told of the loops that have run for too long while it was registered. -/
theorem callbackHits_eq (name : String) (h : Host) (run : List HostAct) :
    h.callbackHits name run = h.trippedFor (.callback name) h.registry.sink run := by
  rw [trippedFor_eq]
  refine collect_congr (fun h a => ?_) h run
  cases htrip : h.tripped a with
  | none =>
    rw [(silent_of_not_tripped htrip).hits]
    simp
  | some e =>
    rw [(tells_of_tripped htrip).hits]
    split
    · next other hsink => by_cases hname : other = name <;> simp [hsink, hname]
    · next hsink =>
      rw [if_neg (hsink name)]
      rfl

theorem received_of_takes (htakes : h.takes id a = true) :
    (h.step a).2.answer.received = h.waiting id := by
  unfold takes at htakes
  split at htakes
  · rw [beq_iff_eq] at htakes
    subst htakes
    rfl
  · rw [beq_iff_eq] at htakes
    have hlast : h.inboxes.getLast? = h.inboxes[id]? := by
      rw [List.getLast?_eq_getElem?]
      congr 1
      omega
    unfold waiting inbox?
    rw [← hlast]
    simp only [step, Session.step, session, lastReceiver]
    cases h.inboxes.getLast?.join <;> rfl
  · cases htakes

theorem waiting_of_opens (hopens : h.opens id a = true) :
    h.waiting id = [] ∧ h.takes id a = false ∧ h.tripped a = none := by
  unfold opens at hopens
  split at hopens
  · rw [beq_iff_eq] at hopens
    subst hopens
    simp [waiting, inbox?, takes, tripped]
  · cases hopens

theorem tripped_of_takes (htakes : h.takes id a = true) : h.tripped a = none := by
  unfold takes at htakes
  split at htakes <;> first | rfl | cases htakes

/-- What goes through a channel by one act. -/
theorem waiting_step (hkept : ((h.step a).1.inbox? id).isSome = true) :
    (if h.takes id a then (h.step a).2.answer.received else []) ++ (h.step a).1.waiting id =
      h.waiting id ++
        if h.registry.sink = some (.channel id) then (h.tripped a).toList else [] := by
  rw [inbox?_step] at hkept
  unfold waiting
  rw [inbox?_step]
  by_cases hopens : h.opens id a = true
  · obtain ⟨hwaiting, htakes, htrip⟩ := waiting_of_opens hopens
    change (h.inbox? id).getD [] = [] at hwaiting
    simp [hopens, htakes, htrip, hwaiting]
  · rw [if_neg hopens] at hkept ⊢
    by_cases hcloses : h.closes id a = true
    · rw [if_pos hcloses] at hkept
      cases hkept
    · rw [if_neg hcloses] at hkept ⊢
      by_cases htakes : h.takes id a = true
      · have hreceived := received_of_takes htakes
        rw [if_pos htakes] at hkept ⊢
        rw [if_pos htakes, hreceived, tripped_of_takes htakes, waiting]
        cases h.inbox? id <;> simp
      · rw [if_neg htakes] at hkept ⊢
        rw [if_neg htakes]
        rw [Option.isSome_map] at hkept
        obtain ⟨es, hes⟩ := Option.isSome_iff_exists.1 hkept
        rw [hes]
        rfl

/-- A receiving end that is gone does not come back. -/
theorem inbox?_step_of_gone (hgone : h.inbox? id = none) (hlt : id < h.inboxes.length) :
    (h.step a).1.inbox? id = none := by
  have hopens : h.opens id a = false := by
    unfold opens
    split
    · rw [beq_eq_false_iff_ne]
      omega
    · rfl
  rw [inbox?_step, hopens, hgone]
  simp

theorem inbox?_after_of_gone (run : List HostAct) (hgone : h.inbox? id = none)
    (hlt : id < h.inboxes.length) : (h.after run).inbox? id = none := by
  induction run generalizing h with
  | nil => exact hgone
  | cons a rest ih =>
    exact ih (inbox?_step_of_gone hgone hlt) (Nat.lt_of_lt_of_le hlt (length_step h a))

theorem waiting_of_le (hge : h.inboxes.length ≤ id) : h.waiting id = [] := by
  rw [waiting, inbox?, List.getElem?_eq_none hge]
  rfl

/-- Nothing goes through a channel that has not been made. -/
theorem waiting_step_of_le (hmade : h.Made) (hge : (h.step a).1.inboxes.length ≤ id) :
    (if h.takes id a then (h.step a).2.answer.received else []) ++ (h.step a).1.waiting id =
      h.waiting id ++
        if h.registry.sink = some (.channel id) then (h.tripped a).toList else [] := by
  have hge' : h.inboxes.length ≤ id := Nat.le_trans (length_step h a) hge
  have hsink : h.registry.sink ≠ some (.channel id) := by
    intro hsink
    exact Nat.not_lt_of_le hge' (hmade id hsink)
  rw [if_neg hsink, waiting_of_le hge, waiting_of_le hge']
  by_cases htakes : h.takes id a = true
  · rw [if_pos htakes, received_of_takes htakes, waiting_of_le hge']
  · rw [if_neg htakes]

/-- What was taken from a channel and what still waits there are what waited there at first and the
loops that have run for too long while the channel was registered. -/
theorem received_append_waiting (hmade : h.Made) {run : List HostAct}
    (hkept : ((h.after run).inbox? id).isSome = true) :
    h.received id run ++ (h.after run).waiting id =
      h.waiting id ++ h.trippedFor (.channel id) h.registry.sink run := by
  induction run generalizing h with
  | nil => simp [received, collect, after, trippedFor]
  | cons a rest ih =>
    have hrest := ih (hmade.step a) hkept
    rw [sink_step] at hrest
    have hstep : (if h.takes id a then (h.step a).2.answer.received else []) ++
        (h.step a).1.waiting id =
        h.waiting id ++
          if h.registry.sink = some (.channel id) then (h.tripped a).toList else [] := by
      by_cases hinbox : ((h.step a).1.inbox? id).isSome = true
      · exact waiting_step hinbox
      · -- A channel that is kept in the end and is not kept yet has not been made yet.
        refine waiting_step_of_le hmade (Nat.le_of_not_lt fun hlt => ?_)
        rw [Option.not_isSome_iff_eq_none] at hinbox
        change (((h.step a).1.after rest).inbox? id).isSome = true at hkept
        rw [inbox?_after_of_gone rest hinbox hlt] at hkept
        cases hkept
    show (_ ++ (h.step a).1.received id rest) ++ ((h.step a).1.after rest).waiting id = _
    rw [List.append_assoc, hrest, ← List.append_assoc, hstep, List.append_assoc]
    rfl

/-! ## From one registration to the next -/

theorem trippedFor_append (k : HitSink) (sink : Option HitSink) (h : Host) (xs ys : List HostAct) :
    h.trippedFor k sink (xs ++ ys) =
      h.trippedFor k sink xs ++ (h.after xs).trippedFor k (h.lastRegistered sink xs) ys := by
  induction xs generalizing h sink with
  | nil => rfl
  | cons a rest ih =>
    show _ ++ (h.step a).1.trippedFor k _ (rest ++ ys) = _
    rw [ih, ← List.append_assoc]
    rfl

/-- Nothing is told to what is not registered. -/
theorem trippedFor_of_not_mem {sink : Option HitSink} (hsink : sink ≠ some k) {run : List HostAct}
    (hk : k ∉ h.registrations run) :
    h.trippedFor k sink run = [] ∧ h.lastRegistered sink run ≠ some k := by
  induction run generalizing h sink with
  | nil => exact ⟨rfl, hsink⟩
  | cons a rest ih =>
    have hk' : k ∉ (h.registered? a).toList ∧ k ∉ (h.step a).1.registrations rest := by
      simpa [registrations, collect] using hk
    have hnext : (h.registered? a).or sink ≠ some k := by
      cases hreg : h.registered? a with
      | none => exact hsink
      | some other =>
        intro heq
        cases heq
        rw [hreg] at hk'
        exact hk'.1 (by simp)
    rw [trippedFor, if_neg hsink]
    exact ih hnext hk'.2

/-- While nothing else is registered, all hits are for the same one. -/
theorem trippedFor_of_not_registers {run : List HostAct} (hrun : ∀ a ∈ run, a.registers = false)
    (h : Host) (k : HitSink) (sink : Option HitSink) :
    h.trippedFor k sink run = (if sink = some k then h.trips run else []) ∧
      h.lastRegistered sink run = sink := by
  induction run generalizing h with
  | nil => exact ⟨by split <;> rfl, rfl⟩
  | cons a rest ih =>
    rw [List.forall_mem_cons] at hrun
    obtain ⟨htrips, hlast⟩ := ih hrun.2 (h.step a).1
    rw [trippedFor, lastRegistered, registered?_of_not_registers hrun.1, Option.none_or, htrips,
      hlast]
    refine ⟨?_, rfl⟩
    split <;> rfl

/-- Once another registration is made, nothing more is told to what was registered before. -/
theorem trippedFor_of_registered {rest : List HostAct}
    (hrest : ∀ a ∈ rest.head?, (h.registered? a).isSome = true) (hk : k ∉ h.registrations rest) :
    h.trippedFor k (some k) rest = [] := by
  cases rest with
  | nil => rfl
  | cons a rest =>
    have hreg := hrest a rfl
    obtain ⟨other, hother⟩ := Option.isSome_iff_exists.1 hreg
    have hk' : k ∉ [other] ∧ k ∉ (h.step a).1.registrations rest := by
      simpa [registrations, collect, hother] using hk
    have hne : some other ≠ some k := by
      intro heq
      cases heq
      exact hk'.1 (List.mem_singleton.2 rfl)
    rw [trippedFor, tripped_of_registered hreg, hother, Option.some_or,
      (trippedFor_of_not_mem hne hk'.2).1, if_pos rfl]
    rfl

/-- What is registered once is told of the loops that are found to have run for too long from then
on until the next registration. -/
theorem trippedFor_span {before during rest : List HostAct} {reg : HostAct} {sink : Option HitSink}
    (hsink : sink ≠ some k) (hbefore : k ∉ h.registrations before)
    (hreg : (h.after before).registered? reg = some k)
    (hduring : ∀ a ∈ during, a.registers = false)
    (hrest : ∀ a ∈ rest.head?, ((h.after (before ++ reg :: during)).registered? a).isSome = true)
    (hk : k ∉ (h.after (before ++ reg :: during)).registrations rest) :
    h.trippedFor k sink (before ++ reg :: during ++ rest) =
      (h.after (before ++ [reg])).trips during := by
  obtain ⟨hnone, hlast⟩ := trippedFor_of_not_mem hsink hbefore
  have hreg' : h.after (before ++ [reg]) = ((h.after before).step reg).1 := after_append h _ _
  have hduring' : h.after (before ++ reg :: during) = (h.after (before ++ [reg])).after during := by
    rw [after_append, hreg']
    rfl
  obtain ⟨htrips, hlast'⟩ :=
    trippedFor_of_not_registers hduring (h.after (before ++ [reg])) k (some k)
  rw [hduring'] at hrest hk
  rw [List.append_assoc, trippedFor_append, hnone, List.nil_append, List.cons_append, trippedFor,
    if_neg hlast, List.nil_append, hreg, Option.some_or, ← hreg', trippedFor_append, htrips,
    if_pos rfl, hlast', trippedFor_of_registered hrest hk, List.append_nil]

/-! ## Hits of a run -/

theorem made_new (l : LoopLimits) (readsClock : Bool) : (new l readsClock).Made := by
  intro id hsink
  cases hsink

/-- Hits are delivered once, in order, to what is registered. A guard that finds a loop to have run
for too long tells of its counter as it stands, by one event and by one delivery if there is someone
to tell, and nothing else is told as a hit. So a callback has been told of the loops that were found
to have run for too long while it was registered, and the same went through a channel whose
receiving end is kept. What is registered once gets those from then on until the next registration.
Receiving ends that are dropped change nothing of what guards show. -/
theorem hits_delivered_once (l : LoopLimits) (readsClock : Bool) :
    (∀ (h : Host) c, (h.step (.call c)).1.session = (h.session.step c).1 ∧
      (h.step (.call c)).2 = (h.session.step c).2) ∧
    (∀ (h : Host) key, (h.step (.call (.guard key))).2.answer = .flag true ↔
      ∃ e, h.tripped (.call (.guard key)) = some e ∧ h.registry.get? key = some e) ∧
    (∀ (h : Host) a e, h.tripped a = some e → h.Tells a e) ∧
    (∀ (h : Host) a, h.tripped a = none → h.Silent a) ∧
    (∀ run name, (new l readsClock).callbackHits name run =
      (new l readsClock).trippedFor (.callback name) none run) ∧
    (∀ run id, (((new l readsClock).after run).inbox? id).isSome = true →
      (new l readsClock).received id run ++ ((new l readsClock).after run).waiting id =
        (new l readsClock).trippedFor (.channel id) none run) ∧
    (∀ k before reg during rest, k ∉ (new l readsClock).registrations before →
      ((new l readsClock).after before).registered? reg = some k →
      (∀ a ∈ during, a.registers = false) →
      (∀ a ∈ rest.head?,
        (((new l readsClock).after (before ++ reg :: during)).registered? a).isSome = true) →
      k ∉ ((new l readsClock).after (before ++ reg :: during)).registrations rest →
      (new l readsClock).trippedFor k none (before ++ reg :: during ++ rest) =
        ((new l readsClock).after (before ++ [reg])).trips during) ∧
    ∀ (h : Host) run, h.guardOutcomes (run.filter (!·.drops)) = h.guardOutcomes run := by
  refine ⟨fun h c => ⟨session_step h c, rfl⟩, answer_of_tripped, fun h a e => tells_of_tripped,
    fun h a => silent_of_not_tripped, fun run name => callbackHits_eq name _ run,
    fun run id hkept => ?_,
    fun k before reg during rest => trippedFor_span (by simp), fun h run =>
      (Alike.refl h).guardOutcomes_without run⟩
  exact received_append_waiting (made_new l readsClock) hkept

/-- A loop that is found to have run for too long. -/
def slowLoop : List HostAct :=
  [.call (.reset ⟨"a.js:1:0", "a.js", 1, 0⟩), .call (.advance ⟨500000000⟩),
    .call (.guard "a.js:1:0")]

/-- Then a callback takes the place of what was registered. The loop is found to have run for too
long again, is started anew, and is forgotten. -/
def lateCallback : List HostAct :=
  [.call (.onHit "late"), .call (.guard "a.js:1:0"), .call (.reset ⟨"a.js:1:0", "a.js", 1, 0⟩),
    .call .clear]

/-- The channel has the first hit, as it was. -/
theorem slowLoop_delivered :
    (((new {} true).after
      (.call .forwardHits :: slowLoop ++ lateCallback)).inbox? 0).isSome = true ∧
    ((new {} true).after (.call .forwardHits :: slowLoop ++ lateCallback)).waiting 0 =
      [⟨"a.js:1:0", "a.js", 1, 0, ⟨0⟩⟩] := by
  obtain ⟨-, -, -, -, -, hchannel, hspan, -⟩ := hits_delivered_once {} true
  have hkept : (((new {} true).after (.call .forwardHits :: slowLoop ++ lateCallback)).inbox?
      0).isSome = true := by decide
  have hreceived := hchannel _ _ hkept
  have htrips := hspan (.channel 0) [] (.call .forwardHits) slowLoop lateCallback
    (by decide) (by decide) (by decide) (by decide)
    (by decide)
  have hfirst : ((new {} true).after ([] ++ [.call .forwardHits])).trips slowLoop =
      [⟨"a.js:1:0", "a.js", 1, 0, ⟨0⟩⟩] := by decide
  have hnone : (new {} true).received 0 (.call .forwardHits :: slowLoop ++ lateCallback) = [] := by
    decide
  rw [hnone] at hreceived
  exact ⟨hkept, hreceived.trans (htrips.trans hfirst)⟩

end Host

end LoopGuard
