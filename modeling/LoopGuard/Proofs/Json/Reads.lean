import LoopGuard.Json.Record

/-!
# What a reader makes of characters

What a reader does to a text is told by the characters in front of it: it takes some of them and
answers something, or it refuses them. How many bytes stand in front of them does not matter.

Results:
* `Reader.Reads.bind`, `Reader.Refuses.bind`, `Reader.Refuses.first`: readers in a row.
* `Reader.reads_closedBy`, `Reader.reads_placed`: readers of containers and of whole values.
* `Reader.Leads.reads`: a reader that goes on as another one.
-/

namespace LoopGuard

namespace Json

namespace Reader

variable {α β : Type} {r : Reader α} {f : α → Reader β} {cs rest rest' : List Char} {a : α} {b : β}

/-- Whether a reader takes some characters up to others, and answers this. -/
def Reads (r : Reader α) (cs : List Char) (a : α) (rest : List Char) : Prop :=
  ∀ n, ∃ n', r.runAt ⟨cs, n⟩ = (.ok a, ⟨rest, n'⟩)

/-- Whether a reader refuses some characters. -/
def Refuses (r : Reader α) (cs : List Char) : Prop := ∀ n, ∃ e c, r.runAt ⟨cs, n⟩ = (.error e, c)

/-- Whether a reader goes on as another one behind some characters. -/
def Leads (r r' : Reader α) (cs rest : List Char) : Prop :=
  ∀ n, ∃ n', r.runAt ⟨cs, n⟩ = r'.runAt ⟨rest, n'⟩

/-- Whether every answer of a reader has a property. -/
def Ensures (P : α → Prop) (r : Reader α) : Prop := ∀ c a c', r.runAt c = (.ok a, c') → P a

/-! ## Readers in a row -/

theorem runAt_bind (r : Reader α) (f : α → Reader β) (c : Cursor) :
    (r >>= f).runAt c =
      match r.runAt c with
      | (.ok a, c') => (f a).runAt c'
      | (.error e, c') => (.error e, c') := by
  unfold runAt
  rw [ExceptT.run_bind]
  simp only [StateT.run_bind]
  rcases (ExceptT.run r).run c with ⟨e | a, c'⟩
  · rfl
  · rfl

theorem Reads.pure (a : α) (cs : List Char) : Reads (pure a) cs a cs := fun n => ⟨n, rfl⟩

theorem Reads.bind (hr : Reads r cs a rest) (hf : Reads (f a) rest b rest') :
    Reads (r >>= f) cs b rest' := by
  intro n
  obtain ⟨m, hm⟩ := hr n
  rw [runAt_bind, hm]
  exact hf m

/-- A reader that refuses characters after another one has taken some. -/
theorem Refuses.bind (hr : Reads r cs a rest) (hf : Refuses (f a) rest) : Refuses (r >>= f) cs := by
  intro n
  obtain ⟨m, hm⟩ := hr n
  rw [runAt_bind, hm]
  exact hf m

/-- What the first of two readers refuses is refused. -/
theorem Refuses.first (hr : Refuses r cs) (f : α → Reader β) : Refuses (r >>= f) cs := by
  intro n
  obtain ⟨e, c, hc⟩ := hr n
  rw [runAt_bind, hc]
  exact ⟨e, c, rfl⟩

theorem Leads.bind {r' : Reader β} (hr : Reads r cs a rest) (hf : Leads (f a) r' rest rest') :
    Leads (r >>= f) r' cs rest' := by
  intro n
  obtain ⟨m, hm⟩ := hr n
  rw [runAt_bind, hm]
  exact hf m

theorem Leads.refl (r : Reader α) (cs : List Char) : Leads r r cs cs := fun n => ⟨n, rfl⟩

theorem Leads.trans {r' r'' : Reader α} (h : Leads r r' cs rest) (h' : Leads r' r'' rest rest') :
    Leads r r'' cs rest' := by
  intro n
  obtain ⟨m, hm⟩ := h n
  rw [hm]
  exact h' m

theorem Leads.reads {r' : Reader α} (h : Leads r r' cs rest) (h' : Reads r' rest a rest') :
    Reads r cs a rest' := by
  intro n
  obtain ⟨m, hm⟩ := h n
  rw [hm]
  exact h' m

theorem Leads.refuses {r' : Reader α} (h : Leads r r' cs rest) (h' : Refuses r' rest) :
    Refuses r cs := by
  intro n
  obtain ⟨m, hm⟩ := h n
  rw [hm]
  exact h' m

/-- What a reader goes on as is followed by the same. -/
theorem Leads.followed {r' : Reader α} (h : Leads r r' cs rest) (f : α → Reader β) :
    Leads (r >>= f) (r' >>= f) cs rest := by
  intro n
  obtain ⟨m, hm⟩ := h n
  exact ⟨m, by rw [runAt_bind, runAt_bind, hm]⟩

theorem Ensures.bind {P : β → Prop} (hf : ∀ a, Ensures P (f a)) : Ensures P (r >>= f) := by
  intro c b c' h
  rw [runAt_bind] at h
  split at h
  · exact hf _ _ _ _ h
  · cases h

theorem Ensures.pure {P : α → Prop} (h : P a) : Ensures P (Pure.pure a) := by
  rintro c b c' ⟨⟩
  exact h

theorem Ensures.ite {P : α → Prop} {c : Prop} [Decidable c] {r' : Reader α} (h : Ensures P r)
    (h' : Ensures P r') : Ensures P (if c then r else r') := by
  split
  · exact h
  · exact h'

/-- A reader whose answers are all refused by the next one. -/
theorem Refuses.of_ensures {P : α → Prop} (hr : Ensures P r)
    (hf : ∀ a, P a → ∀ cs, Refuses (f a) cs)
    (cs : List Char) : Refuses (r >>= f) cs := by
  intro n
  rw [runAt_bind]
  rcases h : r.runAt ⟨cs, n⟩ with ⟨e | a, c⟩
  · exact ⟨e, c, rfl⟩
  · exact hf a (hr _ _ _ h) c.rest c.offset

/-- A reader after which everything is refused. -/
theorem Refuses.last (hf : ∀ a cs, Refuses (f a) cs) (cs : List Char) : Refuses (r >>= f) cs := by
  have hr : Ensures (fun _ => True) r := fun _ _ _ _ => trivial
  exact .of_ensures hr (fun a _ => hf a) cs

/-! ## Simple readers -/

theorem reads_peek (cs : List Char) : Reads peek cs cs.head? cs := fun n => ⟨n, rfl⟩

theorem reads_take (c : Char) (rest : List Char) : Reads take (c :: rest) (some c) rest :=
  fun n => ⟨n + c.utf8Size, rfl⟩

theorem reads_drop (c : Char) (rest : List Char) : Reads drop (c :: rest) () rest :=
  fun n => ⟨n + c.utf8Size, rfl⟩

/-- A reader that is told how many characters there are. -/
theorem leads_length (f : Nat → Reader α) (cs : List Char) :
    Leads (do f (← get).rest.length) (f cs.length) cs cs := fun n => ⟨n, rfl⟩

theorem reads_fuelHere (cs : List Char) : Reads fuelHere cs (cs.length + 1) cs := fun n => ⟨n, rfl⟩

theorem refuses_failHere (fault : Fault) (cs : List Char) :
    Refuses (failHere fault : Reader α) cs :=
  fun _ => ⟨_, _, rfl⟩

theorem refuses_failNext (fault : Fault) (cs : List Char) :
    Refuses (failNext fault : Reader α) cs :=
  fun _ => ⟨_, _, rfl⟩

theorem refuses_failValue (fault : Fault) (cs : List Char) :
    Refuses (failValue fault : Reader α) cs :=
  fun _ => ⟨_, _, rfl⟩

theorem ensures_failHere (P : α → Prop) (fault : Fault) : Ensures P (failHere fault) := nofun

theorem ensures_failNext (P : α → Prop) (fault : Fault) : Ensures P (failNext fault) := nofun

theorem reads_skipWhile (p : Char → Bool) (cs : List Char) :
    Reads (skipWhile p) cs () (cs.dropWhile p) := fun _ => ⟨_, rfl⟩

/-- A word is taken where it stands. -/
theorem reads_word (w rest : List Char) : Reads (word w) (w ++ rest) () rest := by
  induction w with
  | nil => exact Reads.pure () rest
  | cons c w ih =>
    refine (reads_peek _).bind ?_
    show Reads (if (c == c) = true then _ else _) _ _ _
    rw [beq_self_eq_true, if_pos rfl]
    exact (reads_drop c _).bind ih

theorem reads_atDigit (cs : List Char) : Reads atDigit cs (cs.head?.any Char.isDigit) cs :=
  fun n => ⟨n, rfl⟩

/-! ## Values and containers -/

theorem runAt_placed (r : Reader α) (c : Cursor) :
    (placed r).runAt c =
      match r.runAt c with
      | (.error ⟨fault, none⟩, c) => (Except.error ⟨fault, some c.offset⟩, c)
      | outcome => outcome := rfl

theorem runAt_closedBy (r : Reader α) (close : Reader Unit) (c : Cursor) :
    (closedBy r close).runAt c =
      match r.runAt c with
      | (.ok a, c) =>
        match close.runAt c with
        | (.ok _, c) => (Except.ok a, c)
        | (.error e, c) => (Except.error e, c)
      | (.error e, c) => (Except.error e, (close.runAt c).2) := rfl

theorem reads_placed (hr : Reads r cs a rest) : Reads (placed r) cs a rest := by
  intro n
  obtain ⟨m, hm⟩ := hr n
  refine ⟨m, ?_⟩
  rw [runAt_placed, hm]

theorem refuses_placed (hr : Refuses r cs) : Refuses (placed r) cs := by
  intro n
  obtain ⟨⟨fault, offset⟩, c, hc⟩ := hr n
  rw [runAt_placed, hc]
  cases offset with
  | none => exact ⟨_, _, rfl⟩
  | some offset => exact ⟨_, _, rfl⟩

theorem leads_placed {r' : Reader α} (h : Leads r r' cs rest) :
    Leads (placed r) (placed r') cs rest := by
  intro n
  obtain ⟨m, hm⟩ := h n
  refine ⟨m, ?_⟩
  rw [runAt_placed, runAt_placed, hm]

theorem reads_closedBy {close : Reader Unit} (hr : Reads r cs a rest)
    (hclose : Reads close rest () rest') : Reads (closedBy r close) cs a rest' := by
  intro n
  obtain ⟨m, hm⟩ := hr n
  obtain ⟨k, hk⟩ := hclose m
  refine ⟨k, ?_⟩
  rw [runAt_closedBy, hm]
  simp only [hk]

theorem refuses_closedBy {close : Reader Unit} (hr : Refuses r cs) :
    Refuses (closedBy r close) cs := by
  intro n
  obtain ⟨e, c, hc⟩ := hr n
  rw [runAt_closedBy, hc]
  exact ⟨e, _, rfl⟩

end Reader

end Json

end LoopGuard
