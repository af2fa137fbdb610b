import LoopGuard.Proofs.Json.Skipped

/-!
# Objects and arrays of fields

The grammar of objects by their keys, and of arrays by what their elements are of, with what is said
of each value left open; and a whole text that a reader takes or refuses.

Results:
* `Reader.reads_moreMembers_first`, `Reader.reads_moreMembers_next`, `Reader.reads_moreMembers_end`:
  where members follow.
* `Reader.read_of_reads`, `Reader.read_of_refuses`: what is made of a whole text.
-/

namespace LoopGuard

namespace Json

/-! ## Grammar -/

/-- What is said of a value, told by a name, the characters it stands in front of, and those it
leaves. -/
abbrev ValueRule (ι : Type u) := ι → List Char → List Char → Prop

/-- A member of an object, behind spaces: a key, and a value of which the rule says so. -/
inductive Member (P : ValueRule String) : String → List Char → List Char → Prop
  | mk {key : String} {cs cs₁ cs₂ cs₃ cs₄ rest : List Char} : Spaces cs ('"' :: cs₁) →
    StandsFor cs₁ key.toList cs₂ → Spaces cs₂ (':' :: cs₃) → Spaces cs₃ cs₄ → IsValue cs₄ rest →
    P key cs₄ rest → Member P key cs rest

/-- The members of an object with these keys, up to the closing brace. -/
inductive Members (P : ValueRule String) : List String → List Char → List Char → Prop
  | last {key : String} {cs cs₁ rest : List Char} : Member P key cs cs₁ →
    Spaces cs₁ ('\x7d' :: rest) → Members P [key] cs rest
  | more {key : String} {keys : List String} {cs cs₁ cs₂ rest : List Char} : Member P key cs cs₁ →
    Spaces cs₁ (',' :: cs₂) → Members P keys cs₂ rest → Members P (key :: keys) cs rest

/-- An object with these keys, in this order. -/
inductive IsObject (P : ValueRule String) : List String → List Char → List Char → Prop
  | empty {cs cs₁ rest : List Char} : Spaces cs ('\x7b' :: cs₁) → Spaces cs₁ ('\x7d' :: rest) →
    IsObject P [] cs rest
  | members {keys : List String} {cs cs₁ rest : List Char} : Spaces cs ('\x7b' :: cs₁) →
    Members P keys cs₁ rest → IsObject P keys cs rest

/-- The elements of an array, one for each of some things, up to the closing bracket. -/
inductive Elements {ι : Type u} (P : ValueRule ι) : List ι → List Char → List Char → Prop
  | last {i : ι} {cs cs₁ cs₂ rest : List Char} : Spaces cs cs₁ → IsValue cs₁ cs₂ → P i cs₁ cs₂ →
    Spaces cs₂ (']' :: rest) → Elements P [i] cs rest
  | more {i : ι} {is : List ι} {cs cs₁ cs₂ cs₃ rest : List Char} : Spaces cs cs₁ → IsValue cs₁ cs₂ →
    P i cs₁ cs₂ → Spaces cs₂ (',' :: cs₃) → Elements P is cs₃ rest → Elements P (i :: is) cs rest

/-- An array with one element for each of some things, in their order. -/
inductive IsArray {ι : Type u} (P : ValueRule ι) : List ι → List Char → List Char → Prop
  | empty {cs cs₁ rest : List Char} : Spaces cs ('[' :: cs₁) → Spaces cs₁ (']' :: rest) →
    IsArray P [] cs rest
  | elements {is : List ι} {cs cs₁ rest : List Char} : Spaces cs ('[' :: cs₁) →
    Elements P is cs₁ rest → IsArray P is cs rest

variable {P : ValueRule String} {keys : List String} {cs cs₁ rest : List Char}

theorem IsValue.length_lt (h : IsValue cs rest) (hrest : IsEnd rest) :
    rest.length < cs.length := by
  obtain ⟨k, hk, -⟩ := Reader.leads_skipFrom_value hrest h
  omega

theorem Member.length_lt {key : String} (h : Member P key cs rest) (hrest : IsEnd rest) :
    rest.length < cs.length := by
  obtain ⟨hspaces, hkey, hcolon, hspaces', hvalue, -⟩ := h
  have hspaces := hspaces.length_le
  have hkey := hkey.isString.length_lt
  have hcolon := hcolon.length_le
  have hspaces' := hspaces'.length_le
  have hvalue := hvalue.length_lt hrest
  simp only [List.length_cons] at hspaces hcolon
  omega

/-- An object's text is at least as long as it has members. -/
theorem Members.length_le (h : Members P keys cs rest) : keys.length ≤ cs.length := by
  induction h with
  | last hmember hspaces =>
    have := hmember.length_lt (hspaces.isEnd (.inr (.inr rfl)))
    simp only [List.length_singleton]
    omega
  | more hmember hspaces _ ih =>
    have := hmember.length_lt (hspaces.isEnd (.inl rfl))
    have := hspaces.length_le
    simp only [List.length_cons] at this ⊢
    omega

namespace Reader

/-- Whether one stands where items are read, in front of the text of some: at its start if they are
the first ones, else behind what was read, in front of a comma. -/
def AtItems (isFirst : Bool) (cs' cs : List Char) : Prop :=
  if isFirst then cs' = cs else Spaces cs' (',' :: cs)

theorem AtItems.first (cs : List Char) : AtItems true cs cs := rfl

theorem AtItems.next {cs' : List Char} (h : Spaces cs' (',' :: cs)) : AtItems false cs' cs := h

/-! ## Members -/

theorem reads_moreMembers_first (h : Spaces cs ('"' :: rest)) :
    Reads (moreMembers true) cs true ('"' :: rest) := by
  refine (h.token_cons (by decide)).bind ?_
  exact .pure true _

theorem reads_moreMembers_next (h : Spaces cs (',' :: cs₁)) (h' : Spaces cs₁ ('"' :: rest)) :
    Reads (moreMembers false) cs true ('"' :: rest) := by
  refine (h.token_cons (by decide)).bind ((reads_drop ',' cs₁).bind ?_)
  exact (h'.token_cons (by decide)).bind (.pure true _)

theorem reads_moreMembers_end (h : Spaces cs ('\x7d' :: rest)) (isFirst : Bool) :
    Reads (moreMembers isFirst) cs false ('\x7d' :: rest) :=
  (h.token_cons (by decide)).bind (.pure false _)

theorem reads_endObject (h : Spaces cs ('\x7d' :: rest)) : Reads endObject cs () rest :=
  (h.token_cons (by decide)).bind (reads_drop '\x7d' rest)

theorem AtItems.reads_moreMembers {isFirst : Bool} {cs' : List Char} (h : AtItems isFirst cs' cs)
    (h' : Spaces cs ('"' :: rest)) : Reads (moreMembers isFirst) cs' true ('"' :: rest) := by
  cases isFirst with
  | true =>
    obtain rfl : cs' = cs := h
    exact reads_moreMembers_first h'
  | false => exact reads_moreMembers_next h h'

section

variable {σ : Type} {member : String → σ → Reader σ} {s s' : σ} {key : String} {isFirst : Bool}
  {cs' cs₂ : List Char}

theorem leads_members (hat : AtItems isFirst cs' cs) (hspaces : Spaces cs ('"' :: cs₁))
    (hkey : StandsFor cs₁ key.toList cs₂) (hmember : Reads (member key s) cs₂ s' rest)
    (fuel : Nat) :
    Leads (members member (fuel + 1) isFirst s) (members member fuel false s') cs' rest := by
  have hbody := reads_stringBody hkey
  rw [String.ofList_toList] at hbody
  exact Leads.bind (hat.reads_moreMembers hspaces) (Leads.bind (reads_drop '"' cs₁)
    (Leads.bind hbody (Leads.bind hmember (.refl _ rest))))

theorem refuses_members (hat : AtItems isFirst cs' cs) (hspaces : Spaces cs ('"' :: cs₁))
    (hkey : StandsFor cs₁ key.toList cs₂) (hmember : Refuses (member key s) cs₂) (fuel : Nat) :
    Refuses (members member (fuel + 1) isFirst s) cs' := by
  have hbody := reads_stringBody hkey
  rw [String.ofList_toList] at hbody
  exact Refuses.bind (hat.reads_moreMembers hspaces) (Refuses.bind (reads_drop '"' cs₁)
    (Refuses.bind hbody (hmember.first _)))

theorem reads_members_end (h : Spaces cs ('\x7d' :: rest)) (fuel : Nat) :
    Reads (members member (fuel + 1) isFirst s) cs s ('\x7d' :: rest) :=
  (reads_moreMembers_end h isFirst).bind (.pure s _)

end

/-! ## Elements -/

theorem reads_moreItems_first {c : Char} (h : Spaces cs (c :: rest)) (hspace : isSpace c = false)
    (hc : c ≠ ']') : Reads (moreItems true) cs true (c :: rest) := by
  refine (h.token_cons hspace).bind ?_
  split
  · next heq => cases heq
  · next heq => exact absurd (Option.some.inj heq) hc
  · exact .pure true _

theorem reads_moreItems_next {c : Char} (h : Spaces cs (',' :: cs₁)) (h' : Spaces cs₁ (c :: rest))
    (hspace : isSpace c = false) (hc : c ≠ ']') :
    Reads (moreItems false) cs true (c :: rest) := by
  refine (h.token_cons (by decide)).bind ((reads_drop ',' cs₁).bind ?_)
  refine (h'.token_cons hspace).bind ?_
  split
  · next heq => cases heq
  · next heq => exact absurd (Option.some.inj heq) hc
  · exact .pure true _

theorem AtItems.reads_moreItems {isFirst : Bool} {cs' : List Char} {c : Char}
    (h : AtItems isFirst cs' cs) (h' : Spaces cs (c :: rest)) (hspace : isSpace c = false)
    (hc : c ≠ ']') : Reads (moreItems isFirst) cs' true (c :: rest) := by
  cases isFirst with
  | true =>
    obtain rfl : cs' = cs := h
    exact reads_moreItems_first h' hspace hc
  | false => exact reads_moreItems_next h h' hspace hc

theorem reads_moreItems_end (h : Spaces cs (']' :: rest)) (isFirst : Bool) :
    Reads (moreItems isFirst) cs false (']' :: rest) :=
  (h.token_cons (by decide)).bind (.pure false _)

theorem reads_endArray (h : Spaces cs (']' :: rest)) : Reads endArray cs () rest :=
  (h.token_cons (by decide)).bind (reads_drop ']' rest)

/-! ## Whole texts -/

variable {α : Type} {r : Reader α} {a : α} {text : String}

theorem read_of_reads (h : Reads r text.toList a rest) (hrest : Spaces rest []) :
    Json.read r text = .ok a := by
  have hwhole {f : α → Reader α} (hf : Reads (f a) rest a []) :
      ((r >>= f).runAt ⟨text.toList, 0⟩).1 = .ok a := by
    obtain ⟨n, hn⟩ := h.bind hf 0
    rw [hn]
  exact hwhole (hrest.token_nil.bind (.pure a []))

theorem read_of_refuses (h : Refuses r text.toList) : ∃ e, Json.read r text = .error e := by
  have hwhole (f : α → Reader α) : ∃ e, ((r >>= f).runAt ⟨text.toList, 0⟩).1 = .error e := by
    obtain ⟨e, c, hc⟩ := h.first f 0
    exact ⟨e, by rw [hc]⟩
  exact hwhole _

end Reader

end Json

end LoopGuard
