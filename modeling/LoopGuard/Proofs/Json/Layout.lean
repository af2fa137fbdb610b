import LoopGuard.Proofs.Json.Objects
import Mathlib.Algebra.Group.Nat.Defs
import Mathlib.Data.List.Nodup

/-!
# Records that are read

A record is laid out in slots, each with a name, a place in the record, and a kind of value. However
an object is spaced, whatever the order of its members and whichever others there are, reading it
fills the slots whose names are among its keys, and leaves the others as they are in the blank
record. An object in which a slot's name is repeated is refused, and so is one without the name of a
slot that is required, whatever the values are.

Results:
* `Layout.read_object`, `Layout.read_array`: what is read from an object and from an array.
* `Layout.refuses_repeated`, `Layout.refuses_missing`, `Layout.refuses_short`: what is refused.
-/

namespace LoopGuard

namespace Json

open Reader

/-! ## Kinds of values -/

/-- A kind of value: how it is read and encoded, and what is written for a value in front of some
characters. -/
structure Codec (β : Type) where
  decoder : Decoder β
  toValue : β → Value
  InRange : β → Prop
  Writes : β → List Char → List Char → Prop
  writes_toValue : ∀ {b : β}, InRange b → ∀ rest : List Char,
    Writes b ((toValue b).encode.toList ++ rest) rest
  isValue : ∀ {b : β} {cs rest : List Char}, Writes b cs rest → IsValue cs rest
  reads : ∀ {b : β} {cs cs' rest : List Char}, Writes b cs rest → IsEnd rest → Spaces cs' cs →
    Reads decoder.read cs' b rest
  /-- Any value is refused or taken to its end. -/
  refuses_or_reads : ∀ {cs cs' rest : List Char}, IsValue cs rest → IsEnd rest → Spaces cs' cs →
    Refuses decoder.read cs' ∨ ∃ b, Reads decoder.read cs' b rest

/-- What is written for a string: any of its spellings, in quotes. -/
def WritesString (s : String) (cs rest : List Char) : Prop :=
  ∃ cs₁, cs = '"' :: cs₁ ∧ StandsFor cs₁ s.toList rest

/-- What is written for a natural number of at most so many bits: its digits. -/
def WritesNatural (bits n : Nat) (cs rest : List Char) : Prop :=
  n < 2 ^ bits ∧ cs = Nat.toDigits 10 n ++ rest

theorem reads_text {s : String} {cs cs' rest : List Char} (h : WritesString s cs rest)
    (hspaces : Spaces cs' cs) : Reads Reader.text cs' s rest := by
  obtain ⟨cs₁, rfl, hs⟩ := h
  refine reads_placed ((hspaces.token_cons (by decide)).bind ((reads_drop '"' cs₁).bind ?_))
  have hbody := reads_stringBody hs
  rwa [String.ofList_toList] at hbody

/-- Where a string is expected, a value is refused or taken to its end. -/
theorem refuses_or_reads_text {cs cs' rest : List Char} (h : IsValue cs rest)
    (hspaces : Spaces cs' cs) :
    Refuses Reader.text cs' ∨ ∃ s, Reads Reader.text cs' s rest := by
  obtain ⟨c, ds, rfl, hspace, -⟩ := h.exists_cons
  by_cases hquote : c = '"'
  · subst hquote
    rcases standsFor_or_refuses (h.isString rfl) with ⟨s, hs⟩ | hrefuses
    · exact .inr ⟨String.ofList s, reads_text ⟨ds, rfl, by rwa [String.toList_ofList]⟩ hspaces⟩
    · refine .inl (refuses_placed (Refuses.bind (hspaces.token_cons hspace)
        (Refuses.bind (reads_drop '"' ds) ?_)))
      exact (leads_length (fun n => stringFrom (n + 1) []) ds).refuses (hrefuses _ _)
  · refine .inl (refuses_placed (Refuses.bind (hspaces.token_cons hspace) ?_))
    split
    · next heq => cases heq
    · next heq => exact absurd (Option.some.inj heq) hquote
    · exact refuses_unexpected "a string" _

namespace Codec

/-- Strings. -/
def string : Codec String where
  decoder := .string
  toValue := .string
  InRange _ := True
  Writes := WritesString
  writes_toValue := by
    intro s _ rest
    refine ⟨s.toList.flatMap escapeChar ++ '"' :: rest, ?_, standsFor_quoted s.toList rest⟩
    rw [Value.encode_string, quote_eq, List.cons_append, List.append_assoc]
    rfl
  isValue := by
    rintro s cs rest ⟨cs₁, rfl, hs⟩
    exact .scalar (.string hs.isString)
  reads h _ hspaces := reads_text h hspaces
  refuses_or_reads h _ hspaces := refuses_or_reads_text h hspaces

/-- Natural numbers of at most `bits` bits. -/
def natural (bits : Nat) (hbits : bits ≤ 64) (name : String) : Codec Nat where
  decoder := .natural bits name
  toValue := .ofNat
  InRange n := n < 2 ^ bits
  Writes := WritesNatural bits
  writes_toValue := by
    intro n hn rest
    refine ⟨hn, ?_⟩
    rw [Value.ofNat, Value.encode, Number.text, Nat.repr_eq_ofList_toDigits, String.toList_ofList]
  isValue := by
    rintro n cs rest ⟨-, rfl⟩
    exact .scalar (.number (isUnsigned_toDigits n rest))
  reads := by
    rintro n cs cs' rest ⟨hn, rfl⟩ hrest hspaces
    exact reads_natural (by rwa [Nat.one_shiftLeft]) hbits name hrest hspaces
  refuses_or_reads h hrest hspaces := refuses_or_reads_natural h hrest bits name hspaces

end Codec

/-! ## Layouts -/

/-- A place in a record. -/
structure Slot (α : Type) : Type 1 where
  name : String
  isRequired : Bool
  kind : Type
  codec : Codec kind
  get : α → kind
  set : α → kind → α

/-- The field that is kept in a slot. -/
def Slot.field (s : Slot α) : ScalarField α := .of s.name s.isRequired s.codec.decoder s.set

/-- A kind of record whose fields are kept in slots of their own, which are all there is to a
record. -/
structure Layout (α : Type) : Type 1 where
  record : ScalarRecord α
  slots : List (Slot α)
  fields_eq : record.fields = slots.map Slot.field
  nodup : (slots.map (·.name)).Nodup
  get_set : ∀ s ∈ slots, ∀ a b, s.get (s.set a b) = b
  get_set_of_ne : ∀ s ∈ slots, ∀ t ∈ slots, t.name ≠ s.name → ∀ a b, t.get (s.set a b) = t.get a
  ext : ∀ a a', (∀ s ∈ slots, s.get a = s.get a') → a = a'

namespace Layout

variable {α : Type} {L : Layout α} {a : α} {s : Slot α} {p : PartialRecord α} {key : String}
  {keys : List String} {cs cs' rest : List Char}

/-- The names of the slots. -/
def names (L : Layout α) : List String := L.slots.map (·.name)

/-- The keys that are names of slots. -/
def known (L : Layout α) (keys : List String) : List String := keys.filter (· ∈ L.names)

/-- Whether a value is one that is written for what a record holds under its key, if this is the
name of a slot. -/
def Holds (L : Layout α) (a : α) : ValueRule String :=
  fun key cs rest => ∀ s ∈ L.slots, s.name = key → s.codec.Writes (s.get a) cs rest

/-- The record as it is read into. -/
def toRecord (L : Layout α) : Record α := L.record.toRecord

theorem fields_toRecord (L : Layout α) : L.toRecord.fields = L.slots.map (·.field.toField) := by
  show L.record.fields.map (·.toField) = _
  rw [L.fields_eq, List.map_map]
  rfl

theorem field?_of_notMem (h : key ∉ L.names) : L.toRecord.field? key = none := by
  rw [Record.field?, fields_toRecord, List.find?_eq_none]
  intro f hf
  obtain ⟨s, hs, rfl⟩ := List.mem_map.1 hf
  have hne : s.name ≠ key := fun heq => h (heq ▸ List.mem_map_of_mem hs)
  simpa [Slot.field, ScalarField.of] using hne

/-- Slots with one name are one. -/
theorem eq_of_name_eq {t : Slot α} (hs : s ∈ L.slots) (ht : t ∈ L.slots) (h : s.name = t.name) :
    s = t :=
  List.inj_on_of_nodup_map L.nodup hs ht h

theorem field?_of_mem (hs : s ∈ L.slots) : L.toRecord.field? s.name = some s.field.toField := by
  rw [Record.field?, fields_toRecord, List.find?_map]
  have hfind : L.slots.find? (fun t => t.name == s.name) = some s := by
    have hsome : (L.slots.find? (fun t => t.name == s.name)).isSome = true :=
      List.find?_isSome.2 ⟨s, hs, beq_self_eq_true _⟩
    obtain ⟨t, ht⟩ := Option.isSome_iff_exists.1 hsome
    have hname : t.name = s.name := by simpa using List.find?_some ht
    rw [ht, eq_of_name_eq (List.mem_of_find?_eq_some ht) hs hname]
  show (L.slots.find? (fun t => t.name == s.name)).map _ = _
  rw [hfind]
  rfl

theorem holds_of_mem (hs : s ∈ L.slots) (h : s.codec.Writes (s.get a) cs rest) :
    L.Holds a s.name cs rest := by
  intro t ht hname
  obtain rfl := eq_of_name_eq ht hs hname
  exact h

theorem holds_of_notMem (hkey : key ∉ L.names) : L.Holds a key cs rest :=
  fun _ hs hname => absurd (hname ▸ List.mem_map_of_mem hs) hkey

/-! ## Members -/

/-- A member with another key is skipped. -/
theorem reads_member_unknown (hkey : key ∉ L.names) {cs₁ cs₂ : List Char}
    (hcolon : Spaces cs (':' :: cs₁))
    (hspaces : Spaces cs₁ cs₂) (hvalue : IsValue cs₂ rest) (hrest : IsEnd rest)
    (p : PartialRecord α) : Reads (L.toRecord.member key p) cs p rest := by
  unfold Record.member
  rw [field?_of_notMem hkey]
  exact (reads_colon hcolon).bind ((reads_skip hvalue hrest hspaces).bind (.pure p rest))

/-- A name that has been seen is refused. -/
theorem refuses_member_seen (hs : s ∈ L.slots) (hseen : s.name ∈ p.seen) (cs : List Char) :
    Refuses (L.toRecord.member s.name p) cs := by
  unfold Record.member
  rw [field?_of_mem hs]
  show Refuses (if p.seen.contains s.name = true then _ else _) _
  rw [if_pos (by simpa using hseen)]
  exact refuses_failValue _ _

/-- A name that has not been seen is read into its slot. -/
theorem leads_member (hs : s ∈ L.slots) (hseen : s.name ∉ p.seen) {cs₁ : List Char}
    (hcolon : Spaces cs (':' :: cs₁)) :
    Leads (L.toRecord.member s.name p) (do
      let a ← s.field.read p.value
      return ⟨a, s.name :: p.seen⟩) cs cs₁ := by
  unfold Record.member
  rw [field?_of_mem hs]
  show Leads (if p.seen.contains s.name = true then _ else _) _ _ _
  rw [if_neg (by simpa using hseen)]
  exact Leads.bind (reads_colon hcolon) (.refl _ cs₁)

theorem reads_member_known (hs : s ∈ L.slots) (hseen : s.name ∉ p.seen) {b : s.kind}
    {cs₁ cs₂ : List Char} (hcolon : Spaces cs (':' :: cs₁)) (hspaces : Spaces cs₁ cs₂)
    (hwrites : s.codec.Writes b cs₂ rest) (hrest : IsEnd rest) :
    Reads (L.toRecord.member s.name p) cs ⟨s.set p.value b, s.name :: p.seen⟩ rest := by
  have hfield : Reads (s.field.read p.value) cs₁ (s.set p.value b) rest :=
    (s.codec.reads hwrites hrest hspaces).bind (.pure _ rest)
  exact (leads_member hs hseen hcolon).reads (hfield.bind (.pure _ rest))

theorem refuses_or_reads_member_known (hs : s ∈ L.slots) (hseen : s.name ∉ p.seen)
    {cs₁ cs₂ : List Char} (hcolon : Spaces cs (':' :: cs₁)) (hspaces : Spaces cs₁ cs₂)
    (hvalue : IsValue cs₂ rest) (hrest : IsEnd rest) :
    Refuses (L.toRecord.member s.name p) cs ∨
      ∃ b, Reads (L.toRecord.member s.name p) cs ⟨s.set p.value b, s.name :: p.seen⟩ rest := by
  have hleads := leads_member (p := p) hs hseen hcolon
  rcases s.codec.refuses_or_reads hvalue hrest hspaces with hrefuses | ⟨b, hreads⟩
  · have hfield : Refuses (s.field.read p.value) cs₁ := hrefuses.first _
    exact .inl (hleads.refuses (hfield.first _))
  · have hfield : Reads (s.field.read p.value) cs₁ (s.set p.value b) rest :=
      hreads.bind (.pure _ rest)
    exact .inr ⟨b, hleads.reads (hfield.bind (.pure _ rest))⟩

/-- Whether a record that is being read has in its slots what another one has in them, as far as
their names have been seen, and else what the blank one has. -/
def Agrees (L : Layout α) (a : α) (p : PartialRecord α) : Prop :=
  ∀ s ∈ L.slots, s.get p.value = if s.name ∈ p.seen then s.get a else s.get L.record.blank

theorem Agrees.set (h : L.Agrees a p) (hs : s ∈ L.slots) :
    L.Agrees a ⟨s.set p.value (s.get a), s.name :: p.seen⟩ := by
  intro t ht
  by_cases heq : t.name = s.name
  · obtain rfl := eq_of_name_eq ht hs heq
    rw [L.get_set t ht, if_pos (List.mem_cons_self ..)]
  · rw [L.get_set_of_ne s hs t ht heq, h t ht]
    simp [heq]

/-- The names that have been seen behind a member. -/
def seenAfter (L : Layout α) (key : String) (seen : List String) : List String :=
  if key ∈ L.names then key :: seen else seen

section

variable {isFirst : Bool} {fuel : Nat}

/-- A member that holds what a record has is read into its slot, or skipped. -/
theorem leads_member_of_holds (h : Member (L.Holds a) key cs rest) (hrest : IsEnd rest)
    (hat : AtItems isFirst cs' cs) (hagrees : L.Agrees a p) (hnew : key ∈ L.names → key ∉ p.seen)
    (fuel : Nat) : ∃ p', p'.seen = L.seenAfter key p.seen ∧ L.Agrees a p' ∧
      Leads (members L.toRecord.member (fuel + 1) isFirst p)
        (members L.toRecord.member fuel false p')
        cs' rest := by
  obtain ⟨hspaces, hkey, hcolon, hspaces', hvalue, hholds⟩ := h
  by_cases hmem : key ∈ L.names
  · obtain ⟨s, hs, rfl⟩ := List.mem_map.1 hmem
    refine ⟨⟨s.set p.value (s.get a), s.name :: p.seen⟩, (if_pos hmem).symm, hagrees.set hs, ?_⟩
    exact leads_members hat hspaces hkey
      (reads_member_known hs (hnew hmem) hcolon hspaces' (hholds s hs rfl) hrest) fuel
  · refine ⟨p, (if_neg hmem).symm, hagrees, ?_⟩
    exact leads_members hat hspaces hkey
      (reads_member_unknown hmem hcolon hspaces' hvalue hrest p) fuel

/-- Any member is refused, or it is not a repeated one. -/
theorem refuses_or_leads_member {P : ValueRule String} (h : Member P key cs rest)
    (hrest : IsEnd rest)
    (hat : AtItems isFirst cs' cs) (p : PartialRecord α) (fuel : Nat) :
    Refuses (members L.toRecord.member (fuel + 1) isFirst p) cs' ∨
      ∃ p', p'.seen = L.seenAfter key p.seen ∧ (key ∈ L.names → key ∉ p.seen) ∧
        Leads (members L.toRecord.member (fuel + 1) isFirst p)
          (members L.toRecord.member fuel false p') cs' rest := by
  obtain ⟨hspaces, hkey, hcolon, hspaces', hvalue, -⟩ := h
  by_cases hmem : key ∈ L.names
  · obtain ⟨s, hs, rfl⟩ := List.mem_map.1 hmem
    by_cases hseen : s.name ∈ p.seen
    · exact .inl (refuses_members hat hspaces hkey (refuses_member_seen hs hseen _) fuel)
    rcases refuses_or_reads_member_known hs hseen hcolon hspaces' hvalue hrest with hno | ⟨b, hyes⟩
    · exact .inl (refuses_members hat hspaces hkey hno fuel)
    · exact .inr ⟨_, (if_pos hmem).symm, fun _ => hseen, leads_members hat hspaces hkey hyes fuel⟩
  · refine .inr ⟨p, (if_neg hmem).symm, fun h => absurd h hmem, ?_⟩
    exact leads_members hat hspaces hkey
      (reads_member_unknown hmem hcolon hspaces' hvalue hrest p) fuel

theorem mem_seenAfter (hs : s ∈ L.slots) (seen : List String) :
    s.name ∈ L.seenAfter key seen ↔ s.name = key ∨ s.name ∈ seen := by
  unfold seenAfter
  split
  · exact List.mem_cons
  · next hkey =>
    have hne : s.name ≠ key := fun heq => hkey (heq ▸ List.mem_map_of_mem hs)
    simp [hne]

theorem known_cons (key : String) (keys : List String) :
    L.known (key :: keys) = if key ∈ L.names then key :: L.known keys else L.known keys := by
  simp [known, List.filter_cons]

/-- The first of some keys is not repeated, and none of the others is, if it counts as seen. -/
theorem fresh_cons {seen : List String} :
    ((L.known (key :: keys)).Nodup ∧ ∀ k ∈ L.known (key :: keys), k ∉ seen) ↔
      (key ∈ L.names → key ∉ seen) ∧ (L.known keys).Nodup ∧
        ∀ k ∈ L.known keys, k ∉ L.seenAfter key seen := by
  unfold seenAfter
  rw [known_cons]
  by_cases hkey : key ∈ L.names
  · rw [if_pos hkey, if_pos hkey, List.nodup_cons, List.forall_mem_cons]
    simp only [List.mem_cons, not_or, hkey, forall_true_left]
    constructor
    · rintro ⟨⟨hfirst, hothers⟩, hnew, hnews⟩
      exact ⟨hnew, hothers, fun k hk => ⟨fun heq => hfirst (heq ▸ hk), hnews k hk⟩⟩
    · rintro ⟨hnew, hothers, hnews⟩
      exact ⟨⟨fun hk => (hnews key hk).1 rfl, hothers⟩, hnew, fun k hk => (hnews k hk).2⟩
  · rw [if_neg hkey, if_neg hkey]
    simp [hkey]

/-- Members that hold what a record has are read into their slots. -/
theorem reads_members_of_holds (h : Members (L.Holds a) keys cs rest) (hfuel : keys.length < fuel)
    (hat : AtItems isFirst cs' cs) (hagrees : L.Agrees a p)
    (hfresh : (L.known keys).Nodup ∧ ∀ key ∈ L.known keys, key ∉ p.seen) :
    ∃ p', (∀ s ∈ L.slots, s.name ∈ p'.seen ↔ s.name ∈ keys ∨ s.name ∈ p.seen) ∧ L.Agrees a p' ∧
      Reads (members L.toRecord.member fuel isFirst p) cs' p' ('\x7d' :: rest) := by
  induction h generalizing fuel isFirst cs' p with
  | last hmember hspaces =>
    obtain ⟨fuel, rfl⟩ : ∃ n, fuel = n + 2 := ⟨fuel - 2, by simp at hfuel; omega⟩
    obtain ⟨hnew, -⟩ := fresh_cons.1 hfresh
    obtain ⟨p', hseen, hagrees', hleads⟩ := leads_member_of_holds hmember
      (hspaces.isEnd (.inr (.inr rfl))) hat hagrees hnew (fuel + 1)
    refine ⟨p', fun s hs => ?_, hagrees', hleads.reads (reads_members_end hspaces fuel)⟩
    rw [hseen, mem_seenAfter hs, List.mem_singleton]
  | more hmember hspaces _ ih =>
    obtain ⟨fuel, rfl⟩ : ∃ n, fuel = n + 1 := ⟨fuel - 1, by simp at hfuel; omega⟩
    obtain ⟨hnew, hothers⟩ := fresh_cons.1 hfresh
    obtain ⟨p₁, hseen₁, hagrees₁, hleads⟩ := leads_member_of_holds hmember
      (hspaces.isEnd (.inl rfl)) hat hagrees hnew fuel
    rw [← hseen₁] at hothers
    obtain ⟨p', hseen, hagrees', hreads⟩ :=
      ih (Nat.lt_of_succ_lt_succ hfuel) (.next hspaces) hagrees₁
      hothers
    refine ⟨p', fun s hs => ?_, hagrees', hleads.reads hreads⟩
    rw [hseen s hs, hseen₁, mem_seenAfter hs, List.mem_cons]
    tauto

/-- Any members are refused, or none of them is a repeated one. -/
theorem refuses_or_reads_members {P : ValueRule String} (h : Members P keys cs rest)
    (hfuel : keys.length < fuel) (hat : AtItems isFirst cs' cs) (p : PartialRecord α) :
    Refuses (members L.toRecord.member fuel isFirst p) cs' ∨
      ∃ p', (∀ s ∈ L.slots, s.name ∈ p'.seen ↔ s.name ∈ keys ∨ s.name ∈ p.seen) ∧
        ((L.known keys).Nodup ∧ ∀ key ∈ L.known keys, key ∉ p.seen) ∧
        Reads (members L.toRecord.member fuel isFirst p) cs' p' ('\x7d' :: rest) := by
  induction h generalizing fuel isFirst cs' p with
  | last hmember hspaces =>
    obtain ⟨fuel, rfl⟩ : ∃ n, fuel = n + 2 := ⟨fuel - 2, by simp at hfuel; omega⟩
    rcases refuses_or_leads_member hmember (hspaces.isEnd (.inr (.inr rfl))) hat p (fuel + 1)
      with hrefuses | ⟨p', hseen, hnew, hleads⟩
    · exact .inl hrefuses
    · refine .inr ⟨p', fun s hs => ?_, fresh_cons.2 ⟨hnew, .nil, nofun⟩,
        hleads.reads (reads_members_end hspaces fuel)⟩
      rw [hseen, mem_seenAfter hs, List.mem_singleton]
  | more hmember hspaces _ ih =>
    obtain ⟨fuel, rfl⟩ : ∃ n, fuel = n + 1 := ⟨fuel - 1, by simp at hfuel; omega⟩
    rcases refuses_or_leads_member hmember (hspaces.isEnd (.inl rfl)) hat p fuel
      with hrefuses | ⟨p₁, hseen₁, hnew, hleads⟩
    · exact .inl hrefuses
    rcases ih (Nat.lt_of_succ_lt_succ hfuel) (.next hspaces) p₁
      with hrefuses | ⟨p', hseen, hothers, hreads⟩
    · exact .inl (hleads.refuses hrefuses)
    · rw [hseen₁] at hothers
      refine .inr ⟨p', fun s hs => ?_, fresh_cons.2 ⟨hnew, hothers⟩, hleads.reads hreads⟩
      rw [hseen s hs, hseen₁, mem_seenAfter hs, List.mem_cons]
      tauto

end

/-! ## Objects -/

/-- Reads the members of an object. -/
def objectMembers (L : Layout α) : Reader (PartialRecord α) := do
  members L.toRecord.member (← fuelHere) true L.toRecord.start

theorem leads_read_object (hspaces : Spaces cs ('\x7b' :: cs')) :
    Leads L.record.read (placed (objectBody (L.objectMembers >>= L.toRecord.complete))) cs cs' := by
  refine leads_placed (Leads.bind (hspaces.token_cons (by decide))
    (Leads.bind (reads_drop '\x7b' cs') ?_))
  intro n
  exact ⟨n, rfl⟩

theorem agrees_start (L : Layout α) (a : α) : L.Agrees a L.toRecord.start := by
  intro s _
  rw [if_neg (by simp [Record.start])]
  rfl

/-- An object that holds what a record has. -/
theorem reads_object_of_holds (h : IsObject (L.Holds a) keys cs rest)
    (hnodup : (L.known keys).Nodup) :
    ∃ cs' p, Spaces cs ('\x7b' :: cs') ∧ (∀ s ∈ L.slots, s.name ∈ p.seen ↔ s.name ∈ keys) ∧
      L.Agrees a p ∧ Reads L.objectMembers cs' p ('\x7d' :: rest) := by
  cases h with
  | empty hspaces hend =>
    refine ⟨_, L.toRecord.start, hspaces, fun s _ => Iff.rfl, L.agrees_start a, ?_⟩
    exact (reads_fuelHere _).bind (reads_members_end hend _)
  | @members _ _ cs' _ hspaces hmembers =>
    have hfuel : keys.length < cs'.length + 1 := Nat.lt_succ_of_le hmembers.length_le
    have hfresh : (L.known keys).Nodup ∧ ∀ key ∈ L.known keys, key ∉ L.toRecord.start.seen :=
      ⟨hnodup, fun _ _ => List.not_mem_nil⟩
    obtain ⟨p, hseen, hagrees, hreads⟩ :=
      reads_members_of_holds hmembers hfuel (.first cs') (L.agrees_start a) hfresh
    refine ⟨cs', p, hspaces, fun s hs => ?_, hagrees, (reads_fuelHere cs').bind hreads⟩
    rw [hseen s hs]
    exact or_iff_left List.not_mem_nil

/-- The members of any object are refused, or none of them is a repeated one. -/
theorem refuses_or_reads_object {P : ValueRule String} (h : IsObject P keys cs rest)
    (L : Layout α) :
    ∃ cs', Spaces cs ('\x7b' :: cs') ∧ (Refuses L.objectMembers cs' ∨ (L.known keys).Nodup ∧
      ∃ p, (∀ s ∈ L.slots, s.name ∈ p.seen ↔ s.name ∈ keys) ∧
        Reads L.objectMembers cs' p ('\x7d' :: rest)) := by
  cases h with
  | empty hspaces hend =>
    refine ⟨_, hspaces, .inr ⟨.nil, L.toRecord.start, fun s _ => Iff.rfl, ?_⟩⟩
    exact (reads_fuelHere _).bind (reads_members_end hend _)
  | @members _ _ cs' _ hspaces hmembers =>
    have hfuel : keys.length < cs'.length + 1 := Nat.lt_succ_of_le hmembers.length_le
    refine ⟨cs', hspaces, ?_⟩
    rcases refuses_or_reads_members hmembers hfuel (.first cs') L.toRecord.start
      with hrefuses | ⟨p, hseen, ⟨hnodup, -⟩, hreads⟩
    · exact .inl (Refuses.bind (reads_fuelHere cs') hrefuses)
    · refine .inr ⟨hnodup, p, fun s hs => ?_, (reads_fuelHere cs').bind hreads⟩
      rw [hseen s hs]
      exact or_iff_left List.not_mem_nil

theorem missing?_eq_none (L : Layout α) (seen : List String) :
    L.toRecord.missing? seen = none ↔ ∀ s ∈ L.slots, s.isRequired = true → s.name ∈ seen := by
  rw [Record.missing?_eq_none_iff, fields_toRecord]
  simp [Slot.field, ScalarField.of]

theorem reads_complete (h : ∀ s ∈ L.slots, s.isRequired = true → s.name ∈ p.seen) (cs : List Char) :
    Reads (L.toRecord.complete p) cs p.value cs := by
  unfold Record.complete
  rw [(L.missing?_eq_none p.seen).2 h]
  exact .pure _ cs

theorem refuses_complete (hs : s ∈ L.slots) (hrequired : s.isRequired = true) (h : s.name ∉ p.seen)
    (cs : List Char) : Refuses (L.toRecord.complete p) cs := by
  unfold Record.complete
  split
  · exact refuses_failValue _ _
  · next hnone => exact absurd ((L.missing?_eq_none p.seen).1 hnone s hs hrequired) h

variable {text : String}

/-- From an object that holds what a record has, with the names of the required slots and none of
them repeated, a record is read that has the same in the slots whose names are keys, and in the
others what the blank one has. -/
theorem read_object (h : IsObject (L.Holds a) keys text.toList rest) (hrest : Spaces rest [])
    (hnodup : (L.known keys).Nodup)
    (hrequired : ∀ s ∈ L.slots, s.isRequired = true → s.name ∈ keys) :
    ∃ a', Json.read L.record.read text = .ok a' ∧
      ∀ s ∈ L.slots, s.get a' = if s.name ∈ keys then s.get a else s.get L.record.blank := by
  obtain ⟨cs', p, hspaces, hseen, hagrees, hreads⟩ := reads_object_of_holds h hnodup
  have hcomplete : ∀ s ∈ L.slots, s.isRequired = true → s.name ∈ p.seen :=
    fun s hs h => (hseen s hs).2 (hrequired s hs h)
  have hbody := reads_closedBy (hreads.bind (reads_complete hcomplete _)) (reads_endObject .none)
  refine ⟨p.value, read_of_reads ((leads_read_object hspaces).reads (reads_placed hbody)) hrest, ?_⟩
  intro s hs
  rw [hagrees s hs]
  simp only [hseen s hs]

/-- An object is refused in which the name of a slot is repeated. -/
theorem refuses_repeated {P : ValueRule String} (h : IsObject P keys text.toList rest)
    (hrepeated : ¬ (L.known keys).Nodup) : ∃ e, Json.read L.record.read text = .error e := by
  obtain ⟨cs', hspaces, hrefuses | ⟨hnodup, -⟩⟩ := refuses_or_reads_object h L
  · exact read_of_refuses ((leads_read_object hspaces).refuses
      (refuses_placed (refuses_closedBy (hrefuses.first _))))
  · exact absurd hnodup hrepeated

/-- An object is refused that does not have the name of a required slot among its keys. -/
theorem refuses_missing {P : ValueRule String} (h : IsObject P keys text.toList rest)
    (hs : s ∈ L.slots) (hrequired : s.isRequired = true) (hmissing : s.name ∉ keys) :
    ∃ e, Json.read L.record.read text = .error e := by
  obtain ⟨cs', hspaces, hrefuses | ⟨-, p, hseen, hreads⟩⟩ := refuses_or_reads_object h L
  · exact read_of_refuses ((leads_read_object hspaces).refuses
      (refuses_placed (refuses_closedBy (hrefuses.first _))))
  · have hunseen : s.name ∉ p.seen := fun h => hmissing ((hseen s hs).1 h)
    exact read_of_refuses ((leads_read_object hspaces).refuses (refuses_placed (refuses_closedBy
      (Refuses.bind hreads (refuses_complete hs hrequired hunseen _)))))

/-! ## Arrays -/

/-- Whether a value is one that is written for what a record has in a slot. -/
def HoldsAt (a : α) : ValueRule (Slot α) := fun s cs rest => s.codec.Writes (s.get a) cs rest

/-- A record with what another one has in some slots. -/
def filled (a : α) (ss : List (Slot α)) (v : α) : α := ss.foldl (fun v s => s.set v (s.get a)) v

/-- The fields that are kept in slots. -/
def fieldsOf (ss : List (Slot α)) : List (Field α) := ss.map (·.field.toField)

section

variable {ss ss' : List (Slot α)} {index : Nat} {v : α}

theorem get_filled_of_notMem (hsub : ∀ s ∈ ss, s ∈ L.slots) (hs : s ∈ L.slots) (hnot : s ∉ ss) :
    s.get (filled a ss v) = s.get v := by
  induction ss generalizing v with
  | nil => rfl
  | cons t ss ih =>
    rw [List.forall_mem_cons] at hsub
    rw [List.mem_cons, not_or] at hnot
    have hne : s.name ≠ t.name := fun heq => hnot.1 (eq_of_name_eq hs hsub.1 heq)
    exact (ih hsub.2 hnot.2).trans (L.get_set_of_ne t hsub.1 s hs hne v _)

theorem get_filled_of_mem (hsub : ∀ s ∈ ss, s ∈ L.slots) (hs : s ∈ ss) :
    s.get (filled a ss v) = s.get a := by
  induction ss generalizing v with
  | nil => cases hs
  | cons t ss ih =>
    rw [List.forall_mem_cons] at hsub
    show s.get (filled a ss (t.set v (t.get a))) = _
    by_cases hmem : s ∈ ss
    · exact ih hsub.2 hmem
    · obtain rfl : s = t := (List.mem_cons.1 hs).resolve_right hmem
      rw [get_filled_of_notMem hsub.2 hsub.1 hmem, L.get_set s hsub.1]

theorem elements_cons (s : Slot α) (ss : List (Slot α)) (r : Record α) (index : Nat) (v : α) :
    r.elements index (fieldsOf (s :: ss)) v = (do
      if ← moreItems (index == 0) then
        r.elements (index + 1) (fieldsOf ss) (← s.field.read v)
      else if r.allowsShortArray then return v
      else failValue (.invalidLength index r.expectedLength)) := rfl

/-- An element is read into its slot. -/
theorem leads_elements (hat : AtItems (index == 0) cs' cs) {cs₁ : List Char}
    (hspaces : Spaces cs cs₁)
    (hvalue : IsValue cs₁ rest) {v' : α} (hread : Reads (s.field.read v) cs₁ v' rest)
    (r : Record α) (ss : List (Slot α)) :
    Leads (r.elements index (fieldsOf (s :: ss)) v) (r.elements (index + 1) (fieldsOf ss) v')
      cs' rest := by
  obtain ⟨c, ds, rfl, hspace, hc, -⟩ := hvalue.exists_cons
  rw [elements_cons]
  exact Leads.bind (hat.reads_moreItems hspaces hspace hc) (Leads.bind hread (.refl _ rest))

theorem reads_field {b : s.kind} {cs₁ : List Char} (hwrites : s.codec.Writes b cs rest)
    (hrest : IsEnd rest) (hspaces : Spaces cs₁ cs) (v : α) :
    Reads (s.field.read v) cs₁ (s.set v b) rest :=
  (s.codec.reads hwrites hrest hspaces).bind (.pure _ rest)

theorem reads_elements_end (hspaces : Spaces cs (']' :: rest))
    (hshort : ss' = [] ∨ L.toRecord.allowsShortArray = true) (index : Nat) (v : α) :
    ∃ cs₁, Spaces cs₁ (']' :: rest) ∧
      Reads (L.toRecord.elements index (fieldsOf ss') v) cs v cs₁ := by
  cases ss' with
  | nil => exact ⟨cs, hspaces, .pure v cs⟩
  | cons s ss' =>
    refine ⟨']' :: rest, .none, ?_⟩
    rw [elements_cons]
    refine (reads_moreItems_end hspaces _).bind ?_
    rw [if_neg Bool.false_ne_true, if_pos (hshort.resolve_left nofun)]
    exact .pure v _

theorem reads_elements (h : Elements (HoldsAt a) ss cs rest) (hat : AtItems (index == 0) cs' cs)
    (hshort : ss' = [] ∨ L.toRecord.allowsShortArray = true) :
    ∃ cs₁, Spaces cs₁ (']' :: rest) ∧
      Reads (L.toRecord.elements index (fieldsOf (ss ++ ss')) v) cs' (filled a ss v) cs₁ := by
  induction h generalizing index cs' v with
  | @last s cs cs₁ cs₂ rest hspaces hvalue hwrites hend =>
    have hread := reads_field hwrites (hend.isEnd (.inr (.inl rfl))) .none v
    obtain ⟨cs₃, hcs₃, hreads⟩ := reads_elements_end hend hshort (index + 1) (s.set v (s.get a))
    exact ⟨cs₃, hcs₃, (leads_elements hat hspaces hvalue hread _ _).reads hreads⟩
  | @more s ss cs cs₁ cs₂ cs₃ rest hspaces hvalue hwrites hcomma _ ih =>
    have hread := reads_field hwrites (hcomma.isEnd (.inl rfl)) .none v
    have hnext : AtItems (index + 1 == 0) cs₂ cs₃ := .next hcomma
    obtain ⟨cs₄, hcs₄, hreads⟩ := ih (v := s.set v (s.get a)) hnext
    exact ⟨cs₄, hcs₄, (leads_elements hat hspaces hvalue hread _ _).reads hreads⟩

/-- Any element is refused, or read into its slot. -/
theorem refuses_or_leads_elements (hat : AtItems (index == 0) cs' cs) {cs₁ : List Char}
    (hspaces : Spaces cs cs₁) (hvalue : IsValue cs₁ rest) (hrest : IsEnd rest) (s : Slot α)
    (r : Record α) (ss : List (Slot α)) (v : α) :
    Refuses (r.elements index (fieldsOf (s :: ss)) v) cs' ∨
      ∃ v', Leads (r.elements index (fieldsOf (s :: ss)) v)
        (r.elements (index + 1) (fieldsOf ss) v')
        cs' rest := by
  rcases s.codec.refuses_or_reads hvalue hrest .none with hrefuses | ⟨b, hreads⟩
  · obtain ⟨c, ds, rfl, hspace, hc, -⟩ := hvalue.exists_cons
    have hfield : Refuses (s.field.read v) (c :: ds) := hrefuses.first _
    rw [elements_cons]
    exact .inl (Refuses.bind (hat.reads_moreItems hspaces hspace hc) (hfield.first _))
  · have hfield : Reads (s.field.read v) cs₁ (s.set v b) rest := hreads.bind (.pure _ rest)
    exact .inr ⟨s.set v b, leads_elements hat hspaces hvalue hfield r ss⟩

/-- At the end of an array, slots may not be left over. -/
theorem refuses_elements_end (hspaces : Spaces cs (']' :: rest)) (hleft : ss' ≠ [])
    (hlong : L.toRecord.allowsShortArray = false) (index : Nat) (v : α) :
    Refuses (L.toRecord.elements index (fieldsOf ss') v) cs := by
  obtain ⟨s', ss', rfl⟩ := List.exists_cons_of_ne_nil hleft
  rw [elements_cons]
  refine Refuses.bind (reads_moreItems_end hspaces _) ?_
  rw [if_neg Bool.false_ne_true, if_neg (by simp [hlong])]
  exact refuses_failValue _ _

/-- Elements are refused if slots are left over, unless a record may break off. -/
theorem refuses_elements {P : ValueRule (Slot α)} (h : Elements P ss cs rest)
    (hat : AtItems (index == 0) cs' cs) (hleft : ss' ≠ [])
    (hlong : L.toRecord.allowsShortArray = false) :
    Refuses (L.toRecord.elements index (fieldsOf (ss ++ ss')) v) cs' := by
  induction h generalizing index cs' v with
  | @last s cs cs₁ cs₂ rest hspaces hvalue _ hend =>
    rcases refuses_or_leads_elements hat hspaces hvalue (hend.isEnd (.inr (.inl rfl))) s L.toRecord
      ss' v with hrefuses | ⟨v', hleads⟩
    · exact hrefuses
    · exact hleads.refuses (refuses_elements_end hend hleft hlong _ v')
  | @more s ss cs cs₁ cs₂ cs₃ rest hspaces hvalue _ hcomma _ ih =>
    rcases refuses_or_leads_elements hat hspaces hvalue (hcomma.isEnd (.inl rfl)) s L.toRecord
      (ss ++ ss') v with hrefuses | ⟨v', hleads⟩
    · exact hrefuses
    · exact hleads.refuses (ih (.next hcomma))

end

theorem leads_read_array (hspaces : Spaces cs ('[' :: cs')) :
    Leads L.record.read (placed (arrayBody
      (L.toRecord.elements 0 (fieldsOf L.slots) L.record.blank))) cs cs' := by
  rw [fieldsOf, ← fields_toRecord]
  exact leads_placed (Leads.bind (hspaces.token_cons (by decide))
    (Leads.bind (reads_drop '[' cs') (.refl _ cs')))

variable {ss ss' : List (Slot α)}

/-- From an array that holds what a record has in the first slots, a record is read that has the
same in these, and in the others what the blank one has, if there are none or it may break off. -/
theorem read_array (h : IsArray (HoldsAt a) ss text.toList rest) (hrest : Spaces rest [])
    (hslots : L.slots = ss ++ ss') (hshort : ss' = [] ∨ L.record.allowsShortArray = true) :
    ∃ a', Json.read L.record.read text = .ok a' ∧ (∀ s ∈ ss, s.get a' = s.get a) ∧
      ∀ s ∈ ss', s.get a' = s.get L.record.blank := by
  have hsub : ∀ s ∈ ss, s ∈ L.slots := fun s hs => hslots ▸ List.mem_append_left ss' hs
  have hsub' : ∀ s ∈ ss', s ∈ L.slots := fun s hs => hslots ▸ List.mem_append_right ss hs
  have hdisjoint : ss.Disjoint ss' := by
    have hnodup : L.slots.Nodup := L.nodup.of_map
    rw [hslots] at hnodup
    exact (List.nodup_append'.1 hnodup).2.2
  have hread : ∃ cs₀ cs₁, Spaces text.toList ('[' :: cs₀) ∧ Spaces cs₁ (']' :: rest) ∧
      Reads (L.toRecord.elements 0 (fieldsOf L.slots) L.record.blank) cs₀
        (filled a ss L.record.blank) cs₁ := by
    rw [hslots]
    cases h with
    | empty hspaces hend =>
      obtain ⟨cs₁, hcs₁, hreads⟩ := reads_elements_end hend hshort 0 L.record.blank
      exact ⟨_, cs₁, hspaces, hcs₁, hreads⟩
    | @elements _ _ cs₀ _ hspaces helements =>
      have hat : AtItems (0 == 0) cs₀ cs₀ := .first cs₀
      obtain ⟨cs₁, hcs₁, hreads⟩ := reads_elements helements hat hshort
      exact ⟨_, cs₁, hspaces, hcs₁, hreads⟩
  obtain ⟨cs₀, cs₁, hspaces, hend, hreads⟩ := hread
  have hbody := reads_closedBy hreads (reads_endArray hend)
  refine ⟨filled a ss L.record.blank,
    read_of_reads ((leads_read_array hspaces).reads (reads_placed hbody)) hrest, ?_, ?_⟩
  · exact fun s hs => get_filled_of_mem hsub hs
  · exact fun s hs => get_filled_of_notMem hsub (hsub' s hs) fun hmem => hdisjoint hmem hs

/-- An array is refused that breaks off before the last slot, unless it may. -/
theorem refuses_short {P : ValueRule (Slot α)} (h : IsArray P ss text.toList rest)
    (hslots : L.slots = ss ++ ss') (hleft : ss' ≠ []) (hlong : L.record.allowsShortArray = false) :
    ∃ e, Json.read L.record.read text = .error e := by
  have hrefuses : ∃ cs₀, Spaces text.toList ('[' :: cs₀) ∧
      Refuses (L.toRecord.elements 0 (fieldsOf L.slots) L.record.blank) cs₀ := by
    rw [hslots]
    cases h with
    | empty hspaces hend =>
      exact ⟨_, hspaces, refuses_elements_end hend hleft hlong 0 L.record.blank⟩
    | elements hspaces helements =>
      exact ⟨_, hspaces, refuses_elements helements (.first _) hleft hlong⟩
  obtain ⟨cs₀, hspaces, hrefuses⟩ := hrefuses
  exact read_of_refuses ((leads_read_array hspaces).refuses
    (refuses_placed (refuses_closedBy hrefuses)))

end Layout

end Json

end LoopGuard
