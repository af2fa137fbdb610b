import LoopGuard.Proofs.Registry.Known

/-!
# Hosts with several channels

A session keeps the receiving end of one channel. Here a host keeps those of all the channels it has
made, so that hits may wait in several of them, and any of them may be registered again or be
dropped; of such a host a session shows the channel made last.

Results:
* `Host.guard_cases`: what a guard comes to.
* `Host.session_step`: a session is a host of which one receiving end is seen.
* `Host.Alike.guardOutcomes_without`: receiving ends that are dropped change nothing of what guards
  show.
-/

namespace LoopGuard

/-- A registry in the hands of a host that keeps the receiving ends of the channels it makes. -/
structure Host where
  registry : Registry
  clock : ManualClock := {}
  readsClock : Bool := true
  /-- What waits in each channel. Nothing is kept for a channel whose receiving end is gone. -/
  inboxes : List (Option (List CounterEntry)) := []

/-- What a host does. -/
inductive HostAct where
  | call (c : HostCall)
  /-- Registers a channel that has been made. -/
  | forwardTo (channel : Nat)
  /-- Takes what waits in a channel. -/
  | take (channel : Nat)
  /-- Drops the receiving end of a channel. -/
  | drop (channel : Nat)

/-- What has been taken from a channel, by the answer. -/
def HostAnswer.received : HostAnswer → List CounterEntry
  | entries es => es
  | _ => []

namespace HostAct

/-- Whether a callback or a channel is registered. -/
def registers : HostAct → Bool
  | call (.onHit _) | call .forwardHits | forwardTo _ => true
  | _ => false

/-- Whether a receiving end is dropped. -/
def drops : HostAct → Bool
  | call .dropReceiver | drop _ => true
  | _ => false

/-- Whether a loop asks if it may go on. -/
def isGuard : HostAct → Bool
  | call (.guard _) => true
  | _ => false

end HostAct

namespace Session

/-- Which callback is told of a tripped loop. -/
theorem deliver_snd (s : Session) (e : CounterEntry) :
    (s.deliver e).2 =
      match s.registry.sink with
      | some (.callback name) => [(name, e)]
      | _ => [] := by
  unfold deliver
  cases s.registry.sink with
  | none => rfl
  | some sink =>
    cases sink with
    | callback name => rfl
    | channel id =>
      dsimp only
      split
      · split <;> rfl
      · rfl

theorem deliver_fst (s : Session) (e : CounterEntry) :
    ∃ r, (s.deliver e).1 = { s with receiver := r } := by
  unfold deliver
  split
  · exact ⟨s.receiver, rfl⟩
  · exact ⟨s.receiver, rfl⟩
  · split
    · split
      · exact ⟨_, rfl⟩
      · exact ⟨s.receiver, rfl⟩
    · exact ⟨s.receiver, rfl⟩

/-- A guard shows the same whatever is in the channel. -/
theorem guard_withReceiver (s : Session) (r : Option Receiver) (key : String) :
    ∃ r', ({ s with receiver := r } : Session).guard key =
      ({ (s.guard key).1 with receiver := r' }, (s.guard key).2) := by
  have hnow : ({ s with receiver := r } : Session).now = s.now := rfl
  unfold guard
  rw [hnow]
  dsimp only
  cases s.registry.guard key s.now with
  | unknownKey | within => exact ⟨r, rfl⟩
  | tripped e elapsed =>
    obtain ⟨r₁, h₁⟩ := deliver_fst { s with receiver := r } e
    obtain ⟨r₂, h₂⟩ := deliver_fst s e
    dsimp only
    rw [h₁, h₂, deliver_snd, deliver_snd]
    exact ⟨r₁, rfl⟩

/-- What is in the channel changes nothing else. -/
theorem step_withReceiver (s : Session) (r : Option Receiver) (c : HostCall) :
    ∃ r', (({ s with receiver := r } : Session).step c).1 =
      { (s.step c).1 with receiver := r' } := by
  cases c with
  | guard key =>
    obtain ⟨r', hguard⟩ := guard_withReceiver s r key
    exact ⟨r', congrArg Prod.fst hguard⟩
  | receive =>
    simp only [step]
    split <;> split <;> exact ⟨_, rfl⟩
  | forwardHits | dropReceiver => exact ⟨_, rfl⟩
  | _ => exact ⟨r, rfl⟩

end Session

namespace Host

/-- A host with a new registry. -/
def new (l : LoopLimits) (readsClock : Bool) : Host where
  registry := .withLimits l
  readsClock := readsClock

/-- The receiving end of the channel made last. -/
def lastReceiver (inboxes : List (Option (List CounterEntry))) : Option Receiver :=
  inboxes.getLast?.join.map fun waiting => ⟨inboxes.length - 1, waiting⟩

/-- What is left if no other receiving end is kept. -/
def session (h : Host) : Session where
  registry := h.registry
  clock := h.clock
  readsClock := h.readsClock
  channels := h.inboxes.length
  receiver := lastReceiver h.inboxes

/-- What waits in a channel whose receiving end is kept. -/
def inbox? (h : Host) (channel : Nat) : Option (List CounterEntry) := h.inboxes[channel]?.join

/-- What waits in a channel. -/
def waiting (h : Host) (channel : Nat) : List CounterEntry := (h.inbox? channel).getD []

/-- The inboxes once a tripped loop has been told of. -/
def deliver (h : Host) (e : CounterEntry) : List (Option (List CounterEntry)) :=
  match h.registry.sink with
  | some (.channel id) => h.inboxes.modify id (Option.map (· ++ [e]))
  | _ => h.inboxes

/-- The inboxes after a call. -/
def inboxesAfter (h : Host) : HostCall → List (Option (List CounterEntry))
  | .guard key =>
    match h.registry.guard key h.session.now with
    | .tripped e _ => h.deliver e
    | _ => h.inboxes
  | .forwardHits => h.inboxes ++ [some []]
  | .receive => h.inboxes.modify (h.inboxes.length - 1) (Option.map fun _ => [])
  | .dropReceiver => h.inboxes.modify (h.inboxes.length - 1) fun _ => none
  | _ => h.inboxes

/-- Goes on by an act. -/
def step (h : Host) : HostAct → Host × HostOutcome
  | .call c =>
    let (s, outcome) := h.session.step c
    ({ registry := s.registry
       clock := s.clock
       readsClock := s.readsClock
       inboxes := h.inboxesAfter c }, outcome)
  | .forwardTo channel =>
    if channel < h.inboxes.length then
      ({ h with registry := { h.registry with sink := some (.channel channel) } },
        { answer := .nothing })
    else (h, { answer := .nothing })
  | .take channel =>
    ({ h with inboxes := h.inboxes.modify channel (Option.map fun _ => []) },
      { answer := .entries (h.waiting channel) })
  | .drop channel =>
    ({ h with inboxes := h.inboxes.modify channel fun _ => none }, { answer := .nothing })

/-- The host after some acts. -/
def after (h : Host) : List HostAct → Host
  | [] => h
  | a :: rest => (h.step a).1.after rest

/-- What the acts of a run yield, one after the other. -/
def collect {α : Type} (f : Host → HostAct → List α) (h : Host) : List HostAct → List α
  | [] => []
  | a :: rest => f h a ++ collect f (h.step a).1 rest

/-- What the guards of a run show. -/
def guardOutcomes (h : Host) : List HostAct → List HostOutcome :=
  h.collect fun h a => if a.isGuard then [(h.step a).2] else []

variable {h : Host} {a : HostAct}

/-! ## Guards -/

/-- What a guard comes to: the loop has run for too long, or nothing changes and nothing is said of
it. -/
theorem guard_cases (h : Host) (key : String) :
    (∃ e, h.registry.get? key = some e ∧
      h.registry.guard key h.session.now = .tripped e (e.elapsed h.session.now)) ∨
    (h.session.guard key).1 = h.session ∧ (h.session.guard key).2.answer ≠ .flag true ∧
      (h.session.guard key).2.hits = [] ∧ (h.session.guard key).2.events = [] ∧
      h.inboxesAfter (.guard key) = h.inboxes := by
  have hregistry : h.session.registry = h.registry := rfl
  unfold Session.guard inboxesAfter Registry.guard
  rw [hregistry]
  dsimp only
  cases hget : h.registry.get? key with
  | none =>
    refine .inr ⟨rfl, ?_, rfl, rfl, rfl⟩
    intro hanswer
    cases hanswer
  | some e =>
    dsimp only
    by_cases hlt : (e.elapsed h.session.now).nanoseconds < h.registry.threshold.nanoseconds
    · rw [if_pos hlt]
      refine .inr ⟨rfl, ?_, rfl, rfl, rfl⟩
      intro hanswer
      cases hanswer
    · rw [if_neg hlt]
      exact .inl ⟨e, rfl, rfl⟩

/-- A guard that finds the loop to have run for too long. -/
theorem guard_of_tripped {key : String} {e : CounterEntry} {d : Duration}
    (hguard : h.registry.guard key h.session.now = .tripped e d) :
    h.session.guard key = ((h.session.deliver e).1,
      { answer := .flag true, hits := (h.session.deliver e).2,
        events := [.overBudget e d.millis] }) := by
  have hguard' : h.session.registry.guard key h.session.now = .tripped e d := hguard
  unfold Session.guard
  rw [hguard']

/-! ## Inboxes -/

theorem join_getElem?_modify {f : Option (List CounterEntry) → Option (List CounterEntry)}
    (hf : f none = none) (inboxes : List (Option (List CounterEntry))) (channel id : Nat) :
    (inboxes.modify channel f)[id]?.join =
      if channel = id then f inboxes[id]?.join else inboxes[id]?.join := by
  rw [List.getElem?_modify]
  cases inboxes[id]? with
  | none =>
    by_cases hid : channel = id
    · rw [if_pos hid]
      exact hf.symm
    · rw [if_neg hid]
      rfl
  | some inbox => by_cases hid : channel = id <;> simp [hid]

theorem join_getElem?_deliver (h : Host) (e : CounterEntry) (id : Nat) :
    (h.deliver e)[id]?.join =
      (h.inbox? id).map (· ++ if h.registry.sink = some (.channel id) then [e] else []) := by
  unfold deliver
  split
  · next channel hsink =>
    rw [join_getElem?_modify rfl]
    by_cases hid : channel = id
    · rw [if_pos hid, if_pos (hsink.trans (by rw [hid]))]
      rfl
    · have hother : h.registry.sink ≠ some (.channel id) := by
        rw [hsink]
        intro heq
        cases heq
        exact hid rfl
      simp [hid, hother, inbox?]
  · next hsink =>
    rw [if_neg (hsink id)]
    simp [inbox?]

theorem length_deliver (h : Host) (e : CounterEntry) :
    (h.deliver e).length = h.inboxes.length := by
  unfold deliver
  split <;> simp

theorem length_inboxesAfter (h : Host) (c : HostCall) :
    (h.inboxesAfter c).length = h.inboxes.length + if c = .forwardHits then 1 else 0 := by
  cases c with
  | guard key =>
    simp only [inboxesAfter]
    split
    · exact length_deliver h _
    · rfl
  | _ => simp [inboxesAfter]

theorem length_step (h : Host) (a : HostAct) : h.inboxes.length ≤ (h.step a).1.inboxes.length := by
  cases a with
  | call c =>
    show h.inboxes.length ≤ (h.inboxesAfter c).length
    rw [length_inboxesAfter]
    exact Nat.le_add_right _ _
  | forwardTo channel =>
    simp only [step]
    split <;> exact Nat.le_refl _
  | take | drop => simp [step]

/-! ## One receiving end -/

theorem lastReceiver_eq {inboxes : List (Option (List CounterEntry))}
    (hlength : inboxes.length = h.inboxes.length) :
    lastReceiver inboxes = inboxes[h.inboxes.length - 1]?.join.map
      fun waiting => ⟨h.inboxes.length - 1, waiting⟩ := by
  rw [← hlength, ← List.getLast?_eq_getElem?]
  rfl

theorem receiver_deliver (h : Host) (e : CounterEntry) :
    (h.session.deliver e).1.receiver = lastReceiver (h.deliver e) := by
  have hreceiver : h.session.receiver =
      (h.inbox? (h.inboxes.length - 1)).map fun waiting => ⟨h.inboxes.length - 1, waiting⟩ :=
    lastReceiver_eq rfl
  have hsink : h.session.registry.sink = h.registry.sink := rfl
  rw [lastReceiver_eq (length_deliver h e), join_getElem?_deliver]
  unfold Session.deliver
  rw [hsink]
  cases h.registry.sink with
  | none => simp [hreceiver]
  | some sink =>
    cases sink with
    | callback name => simp [hreceiver]
    | channel id =>
      cases hinbox : h.inbox? (h.inboxes.length - 1) with
      | none =>
        rw [hinbox] at hreceiver
        simp [hreceiver]
      | some es =>
        rw [hinbox] at hreceiver
        by_cases hid : h.inboxes.length - 1 = id
        · subst hid
          simp [hreceiver]
        · have hne : id ≠ h.inboxes.length - 1 := fun heq => hid heq.symm
          simp [hreceiver, hid, hne]

theorem channels_step (h : Host) (c : HostCall) :
    (h.session.step c).1.channels = (h.inboxesAfter c).length := by
  rw [length_inboxesAfter]
  cases c with
  | guard key =>
    show (h.session.guard key).1.channels = _
    rcases guard_cases h key with ⟨e, -, hguard⟩ | ⟨hsame, -⟩
    · obtain ⟨r, hdeliver⟩ := Session.deliver_fst h.session e
      rw [guard_of_tripped hguard, hdeliver]
      rfl
    · rw [hsame]
      rfl
  | receive =>
    simp only [Session.step]
    split <;> rfl
  | _ => rfl

theorem receiver_step (h : Host) (c : HostCall) :
    (h.session.step c).1.receiver = lastReceiver (h.inboxesAfter c) := by
  cases c with
  | guard key =>
    show (h.session.guard key).1.receiver = _
    rcases guard_cases h key with ⟨e, -, hguard⟩ | ⟨hsame, -, -, -, hinboxes⟩
    · rw [guard_of_tripped hguard, inboxesAfter, hguard]
      exact receiver_deliver h e
    · rw [hsame, hinboxes]
      rfl
  | forwardHits => simp [Session.step, session, inboxesAfter, lastReceiver]
  | receive =>
    have hreceiver : h.session.receiver = h.inboxes[h.inboxes.length - 1]?.join.map
        fun waiting => ⟨h.inboxes.length - 1, waiting⟩ := lastReceiver_eq rfl
    rw [lastReceiver_eq (length_inboxesAfter h .receive)]
    show _ = (h.inboxes.modify _ _)[_]?.join.map _
    rw [join_getElem?_modify rfl, if_pos rfl]
    simp only [Session.step, hreceiver]
    cases hinbox : h.inboxes[h.inboxes.length - 1]?.join with
    | none =>
      rw [hinbox] at hreceiver
      exact hreceiver
    | some es => rfl
  | dropReceiver =>
    rw [lastReceiver_eq (length_inboxesAfter h .dropReceiver)]
    show _ = (h.inboxes.modify _ _)[_]?.join.map _
    rw [join_getElem?_modify rfl, if_pos rfl]
    rfl
  | _ => rfl

/-- A host does with its registry what the session does of which one receiving end is seen. -/
theorem session_step (h : Host) (c : HostCall) :
    (h.step (.call c)).1.session = (h.session.step c).1 := by
  have hchannels := channels_step h c
  have hreceiver := receiver_step h c
  unfold step session
  dsimp only
  unfold session at hchannels hreceiver
  rw [← hchannels, ← hreceiver]

/-! ## Receiving ends that are gone -/

/-- Two hosts that differ in nothing but what is in their inboxes. -/
structure Alike (h h' : Host) : Prop where
  registry : h.registry = h'.registry
  clock : h.clock = h'.clock
  readsClock : h.readsClock = h'.readsClock
  length : h.inboxes.length = h'.inboxes.length

namespace Alike

variable {h' : Host}

theorem refl (h : Host) : Alike h h := ⟨rfl, rfl, rfl, rfl⟩

/-- Dropping a receiving end changes nothing else. -/
theorem drops (hsame : Alike h h') (ha : a.drops = true) : Alike (h.step a).1 h' := by
  unfold HostAct.drops at ha
  split at ha
  · have hlength := length_inboxesAfter h .dropReceiver
    exact ⟨hsame.registry, hsame.clock, hsame.readsClock, hlength.trans hsame.length⟩
  · refine ⟨hsame.registry, hsame.clock, hsame.readsClock, ?_⟩
    rw [← hsame.length]
    simp [Host.step]
  · cases ha

theorem session (hsame : Alike h h') :
    h.session = { h'.session with receiver := h.session.receiver } := by
  obtain ⟨hregistry, hclock, hreads, hlength⟩ := hsame
  unfold Host.session
  rw [hregistry, hclock, hreads, hlength]

theorem step (hsame : Alike h h') (a : HostAct) : Alike (h.step a).1 (h'.step a).1 := by
  cases a with
  | call c =>
    obtain ⟨r, hstep⟩ := Session.step_withReceiver h'.session h.session.receiver c
    rw [← hsame.session] at hstep
    have hlength : (h.inboxesAfter c).length = (h'.inboxesAfter c).length := by
      rw [length_inboxesAfter, length_inboxesAfter, hsame.length]
    refine ⟨?_, ?_, ?_, hlength⟩
    · show (h.session.step c).1.registry = (h'.session.step c).1.registry
      rw [hstep]
    · show (h.session.step c).1.clock = (h'.session.step c).1.clock
      rw [hstep]
    · show (h.session.step c).1.readsClock = (h'.session.step c).1.readsClock
      rw [hstep]
  | forwardTo channel =>
    simp only [Host.step, hsame.length]
    split
    · exact ⟨by rw [hsame.registry], hsame.clock, hsame.readsClock, hsame.length⟩
    · exact hsame
  | take | drop =>
    exact ⟨hsame.registry, hsame.clock, hsame.readsClock, by simp [Host.step, hsame.length]⟩

theorem guard_step (hsame : Alike h h') (ha : a.isGuard = true) : (h.step a).2 = (h'.step a).2 := by
  unfold HostAct.isGuard at ha
  split at ha
  · next key =>
    obtain ⟨r, hguard⟩ := Session.guard_withReceiver h'.session h.session.receiver key
    rw [← hsame.session] at hguard
    show (h.session.guard key).2 = (h'.session.guard key).2
    rw [hguard]
  · cases ha

/-- What guards show does not depend on which receiving ends are dropped. -/
theorem guardOutcomes_without (hsame : Alike h h') (run : List HostAct) :
    h'.guardOutcomes (run.filter (!·.drops)) = h.guardOutcomes run := by
  induction run generalizing h h' with
  | nil => rfl
  | cons a rest ih =>
    rw [List.filter_cons]
    by_cases ha : a.drops = true
    · have hguard : a.isGuard = false := by
        unfold HostAct.drops at ha
        split at ha <;> first | rfl | cases ha
      rw [ha, if_neg (by decide), ih (hsame.drops ha)]
      unfold guardOutcomes
      rw [collect, hguard]
      rfl
    · rw [Bool.not_eq_true] at ha
      rw [ha, Bool.not_false, if_pos rfl]
      unfold guardOutcomes at ih ⊢
      rw [collect, collect, ih (hsame.step a)]
      by_cases hguard : a.isGuard = true
      · rw [if_pos hguard, if_pos hguard, hsame.guard_step hguard]
      · rw [if_neg hguard, if_neg hguard]

end Alike

end Host

end LoopGuard
