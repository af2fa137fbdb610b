import LoopGuard.Proofs.Json.Layout
import LoopGuard.Registry.Limits
import LoopGuard.ResetOptions

/-!
# Exchanged texts

Reset options, positions, limits and loop keys are exchanged as texts. Their encodings are objects
and strings of the grammar, and so each is decoded to what was encoded; and so is any other text of
the grammar that holds the same. Fields of limits may be left out, and have their defaults then.

Results:
* `Layout.isObject_encode`: the text of a record is an object that holds it.
* `Layout.read_encode`, `Layout.read_of_perm`: a record is read from its own text, and from any
  object that has its fields in some order.
* `decode_exchanged`: what is decoded, for each kind of value that is exchanged.
-/

namespace LoopGuard

namespace Json

/-! ## Whole texts -/

/-- Whether a text is an object with these keys, of whose values the rule says so. -/
def IsObjectText (P : ValueRule String) (keys : List String) (text : String) : Prop :=
  ∃ rest, IsObject P keys text.toList rest ∧ Spaces rest []

/-- Whether a text is an array with one element for each of some things, of which the rule says
so. -/
def IsArrayText {ι : Type u} (P : ValueRule ι) (is : List ι) (text : String) : Prop :=
  ∃ rest, IsArray P is text.toList rest ∧ Spaces rest []

/-- Whether a text is a spelling of a string. -/
def IsStringText (s text : String) : Prop :=
  ∃ cs rest, Spaces text.toList cs ∧ WritesString s cs rest ∧ Spaces rest []

theorem read_text {s text : String} (h : IsStringText s text) :
    Json.read Reader.text text = .ok s := by
  obtain ⟨cs, rest, hspaces, hwrites, hrest⟩ := h
  exact Reader.read_of_reads (reads_text hwrites hspaces) hrest

theorem isStringText_quote (s : String) : IsStringText s (quote s) := by
  refine ⟨(quote s).toList, [], .none, ?_, .none⟩
  have hwrites := Codec.string.writes_toValue (b := s) trivial []
  rwa [List.append_nil] at hwrites

/-! ## Encoded objects -/

/-- An encoded member is a member of the grammar. -/
theorem member_encoded {P : ValueRule String} (key : String) {cs rest : List Char}
    (hvalue : IsValue cs rest) (hP : P key cs rest) :
    Member P key ((quote key).toList ++ ':' :: cs) rest := by
  obtain ⟨cs₁, hcs₁, hkey⟩ := Codec.string.writes_toValue (b := key) trivial (':' :: cs)
  rw [show ((quote key).toList ++ ':' :: cs) = '"' :: cs₁ from hcs₁]
  exact ⟨.none, hkey, .none, .none, hvalue, hP⟩

theorem members_encoded {P : ValueRule String} {ms : List (String × Value)} (hms : ms ≠ [])
    (h : ∀ m ∈ ms, ∀ rest : List Char, IsValue (m.2.encode.toList ++ rest) rest ∧
      P m.1 (m.2.encode.toList ++ rest) rest) (rest : List Char) :
    Members P (ms.map (·.1)) ((Value.encodeMembers ms).toList ++ '\x7d' :: rest) rest := by
  induction ms with
  | nil => exact absurd rfl hms
  | cons m ms ih =>
    obtain ⟨key, v⟩ := m
    rw [List.forall_mem_cons] at h
    cases ms with
    | nil =>
      obtain ⟨hvalue, hP⟩ := h.1 ('\x7d' :: rest)
      have hmember := member_encoded key hvalue hP
      simpa [Value.encodeMembers] using Members.last hmember .none
    | cons m' ms =>
      have hothers := ih (List.cons_ne_nil m' ms) h.2
      obtain ⟨hvalue, hP⟩ :=
        h.1 (',' :: ((Value.encodeMembers (m' :: ms)).toList ++ '\x7d' :: rest))
      have hmember := member_encoded key hvalue hP
      simpa [Value.encodeMembers] using Members.more hmember .none hothers

namespace Layout

variable {α : Type} {L : Layout α} {a : α} {keys : List String} {text : String}

/-- A record as an object of its slots. -/
def toValue (L : Layout α) (a : α) : Value :=
  .object (L.slots.map fun s => (s.name, s.codec.toValue (s.get a)))

/-- Whether the values in the slots are in their ranges. -/
def InRange (L : Layout α) (a : α) : Prop := ∀ s ∈ L.slots, s.codec.InRange (s.get a)

/-- The text of a record is an object that holds it. -/
theorem isObject_encode (h : L.InRange a) (hslots : L.slots ≠ []) :
    IsObjectText (L.Holds a) L.names (L.toValue a).encode := by
  have hmembers : ∀ m ∈ L.slots.map fun s => (s.name, s.codec.toValue (s.get a)),
      ∀ rest : List Char, IsValue (m.2.encode.toList ++ rest) rest ∧
        L.Holds a m.1 (m.2.encode.toList ++ rest) rest := by
    intro m hm rest
    obtain ⟨s, hs, rfl⟩ := List.mem_map.1 hm
    have hwrites := s.codec.writes_toValue (h s hs) rest
    exact ⟨s.codec.isValue hwrites, holds_of_mem hs hwrites⟩
  have htext : (L.toValue a).encode.toList = '\x7b' :: ((Value.encodeMembers (L.slots.map fun s =>
      (s.name, s.codec.toValue (s.get a)))).toList ++ '\x7d' :: []) := by
    simp [toValue, Value.encode]
  have hobject := members_encoded (by simpa using hslots) hmembers []
  rw [List.map_map] at hobject
  refine ⟨[], ?_, .none⟩
  rw [htext]
  exact .members .none hobject

/-- A record is read from any object that has its fields in some order, whatever else it has. -/
theorem read_of_perm (h : IsObjectText (L.Holds a) keys text)
    (hperm : (L.known keys).Perm L.names) :
    Json.read L.record.read text = .ok a := by
  obtain ⟨rest, hobject, hrest⟩ := h
  have hmem : ∀ s ∈ L.slots, s.name ∈ keys := fun s hs =>
    (List.mem_filter.1 (hperm.mem_iff.2 (List.mem_map_of_mem hs))).1
  obtain ⟨a', hread, hget⟩ := read_object hobject hrest (hperm.nodup_iff.2 L.nodup)
    fun s hs _ => hmem s hs
  have heq : a' = a := L.ext a' a fun s hs => by rw [hget s hs, if_pos (hmem s hs)]
  rw [hread, heq]

theorem known_names (L : Layout α) : L.known L.names = L.names :=
  List.filter_eq_self.2 fun _ hkey => decide_eq_true hkey

/-- A record is read from its own text. -/
theorem read_encode (h : L.InRange a) (hslots : L.slots ≠ []) :
    Json.read L.record.read (L.toValue a).encode = .ok a :=
  read_of_perm (isObject_encode h hslots) (.of_eq L.known_names)

/-- What is asked of a kind of record that is exchanged. -/
structure Exchanges (L : Layout α) (decode : String → Except Error α) (encode : α → String) :
    Prop where
  decode_encode : ∀ a, L.InRange a → decode (encode a) = .ok a
  /-- Fields may come in any order, and with any other members. -/
  decode_of_perm : ∀ a keys text, IsObjectText (L.Holds a) keys text →
    (L.known keys).Perm L.names → decode text = .ok a
  /-- A field may not be repeated, whatever the values are. -/
  refuses_of_not_nodup : ∀ P keys text, IsObjectText P keys text → ¬ (L.known keys).Nodup →
    ∃ e, decode text = .error e

/-- What is asked of a kind of record none of whose fields may be left out, whatever the values of
the others are. -/
structure IsStrict (L : Layout α) (decode : String → Except Error α) : Prop where
  refuses_object : ∀ P keys text, IsObjectText P keys text → ¬ L.names ⊆ keys →
    ∃ e, decode text = .error e
  refuses_array : ∀ P n text, IsArrayText P (L.slots.take n) text → n < L.slots.length →
    ∃ e, decode text = .error e

theorem exchanges (L : Layout α) (hslots : L.slots ≠ []) :
    L.Exchanges (Json.read L.record.read) fun a => (L.toValue a).encode where
  decode_encode _ h := read_encode h hslots
  decode_of_perm _ _ _ h hperm := read_of_perm h hperm
  refuses_of_not_nodup := by
    rintro P keys text ⟨rest, hobject, -⟩ hrepeated
    exact refuses_repeated hobject hrepeated

theorem isStrict (L : Layout α) (hrequired : ∀ s ∈ L.slots, s.isRequired = true)
    (hlong : L.record.allowsShortArray = false) : L.IsStrict (Json.read L.record.read) where
  refuses_object := by
    rintro P keys text ⟨rest, hobject, -⟩ hmissing
    obtain ⟨s, hs, hnot⟩ : ∃ s ∈ L.slots, s.name ∉ keys := by
      by_contra hall
      refine hmissing fun name hname => ?_
      obtain ⟨s, hs, rfl⟩ := List.mem_map.1 hname
      by_contra hnot
      exact hall ⟨s, hs, hnot⟩
    exact refuses_missing hobject hs (hrequired s hs) hnot
  refuses_array := by
    rintro P n text ⟨rest, harray, -⟩ hn
    refine refuses_short harray (List.take_append_drop n L.slots).symm ?_ hlong
    exact mt List.drop_eq_nil_iff.1 (Nat.not_le_of_lt hn)

end Layout

end Json

open Json

/-! ## Layouts -/

/-- Options have slots for their key, file, line and column. -/
def ResetOptions.layout : Layout ResetOptions where
  record := record
  slots :=
    [⟨"key", true, String, .string, (·.key), fun o key => { o with key }⟩,
     ⟨"file", true, String, .string, (·.file), fun o file => { o with file }⟩,
     ⟨"line", true, Nat, .natural 32 (by decide) "u32", (·.line), fun o line => { o with line }⟩,
     ⟨"column", true, Nat, .natural 32 (by decide) "u32",
       (·.column), fun o column => { o with column }⟩]
  fields_eq := rfl
  nodup := by decide
  get_set := by simp
  get_set_of_ne := by simp
  ext := by
    rintro ⟨key, file, line, column⟩ ⟨key', file', line', column'⟩ h
    simpa using h

/-- Positions have slots for their line and column. -/
def Position.layout : Layout Position where
  record := record
  slots :=
    [⟨"line", true, Nat, .natural 32 (by decide) "u32", (·.line), fun p line => { p with line }⟩,
     ⟨"column", true, Nat, .natural 32 (by decide) "u32",
       (·.column), fun p column => { p with column }⟩]
  fields_eq := rfl
  nodup := by decide
  get_set := by simp
  get_set_of_ne := by simp
  ext := by
    rintro ⟨line, column⟩ ⟨line', column'⟩ h
    simpa using h

/-- Limits have slots for the two times. -/
def LoopLimits.layout : Layout LoopLimits where
  record := record
  slots :=
    [⟨"threshold_ms", false, Nat, .natural 64 (by decide) "u64", (·.thresholdMs),
      fun l thresholdMs => { l with thresholdMs }⟩,
     ⟨"idle_ttl_ms", false, Nat, .natural 64 (by decide) "u64", (·.idleTtlMs),
      fun l idleTtlMs => { l with idleTtlMs }⟩]
  fields_eq := rfl
  nodup := by decide
  get_set := by simp
  get_set_of_ne := by simp
  ext := by
    rintro ⟨threshold, idle⟩ ⟨threshold', idle'⟩ h
    simpa using h

/-! ## Limits -/

namespace LoopLimits

variable {l : LoopLimits} {text : String}

/-- What an object of limits leaves out has its default. -/
theorem decode_object {keys : List String} (h : IsObjectText (layout.Holds l) keys text)
    (hnodup : (layout.known keys).Nodup) :
    decode text = .ok ⟨if "threshold_ms" ∈ keys then l.thresholdMs else 500,
      if "idle_ttl_ms" ∈ keys then l.idleTtlMs else 60000⟩ := by
  obtain ⟨rest, hobject, hrest⟩ := h
  have hrequired : ∀ s ∈ layout.slots, s.isRequired = true → s.name ∈ keys := by simp [layout]
  obtain ⟨a, hread, hget⟩ := Layout.read_object hobject hrest hnodup hrequired
  obtain ⟨threshold, idle⟩ := a
  obtain ⟨hthreshold, hidle⟩ : threshold = (if "threshold_ms" ∈ keys then l.thresholdMs else 500) ∧
      idle = if "idle_ttl_ms" ∈ keys then l.idleTtlMs else 60000 := by
    simpa [layout, record] using hget
  rw [← hthreshold, ← hidle]
  exact hread

/-- Where an array of limits breaks off, they have their defaults. -/
theorem decode_array {n : Nat} (h : IsArrayText (Layout.HoldsAt l) (layout.slots.take n) text) :
    decode text =
      .ok ⟨if 0 < n then l.thresholdMs else 500, if 1 < n then l.idleTtlMs else 60000⟩ := by
  obtain ⟨rest, harray, hrest⟩ := h
  obtain ⟨⟨threshold, idle⟩, hread, hget, hblank⟩ := Layout.read_array harray hrest
    (List.take_append_drop n layout.slots).symm (.inr rfl)
  obtain ⟨hthreshold, hidle⟩ : threshold = (if 0 < n then l.thresholdMs else 500) ∧
      idle = if 1 < n then l.idleTtlMs else 60000 := by
    match n with
    | 0 => simpa [layout, record] using hblank
    | 1 => simpa [layout, record] using And.intro hget hblank
    | n + 2 => simpa [layout, record] using hget
  rw [← hthreshold, ← hidle]
  exact hread

end LoopLimits

/-! ## Exchanged texts -/

/-- What is decoded. Each value is decoded from its own text, a record from any object that has its
fields, and limits also from objects and arrays that leave some out. -/
theorem decode_exchanged :
    (∀ k : LoopKey, LoopKey.decode k.encode = .ok k ∧
      ∀ text, IsStringText k.text text → LoopKey.decode text = .ok k) ∧
    ResetOptions.layout.Exchanges ResetOptions.decode ResetOptions.encode ∧
    Position.layout.Exchanges Position.decode Position.encode ∧
    LoopLimits.layout.Exchanges LoopLimits.decode LoopLimits.encode ∧
    ResetOptions.layout.IsStrict ResetOptions.decode ∧
    Position.layout.IsStrict Position.decode ∧
    (∀ l keys text, IsObjectText (LoopLimits.layout.Holds l) keys text →
      (LoopLimits.layout.known keys).Nodup →
      LoopLimits.decode text = .ok ⟨if "threshold_ms" ∈ keys then l.thresholdMs else 500,
        if "idle_ttl_ms" ∈ keys then l.idleTtlMs else 60000⟩) ∧
    ∀ l n text, IsArrayText (Layout.HoldsAt l) (LoopLimits.layout.slots.take n) text →
      LoopLimits.decode text = .ok ⟨if 0 < n then l.thresholdMs else 500,
        if 1 < n then l.idleTtlMs else 60000⟩ := by
  have hkey : ∀ (k : LoopKey) text, IsStringText k.text text → LoopKey.decode text = .ok k := by
    intro k text h
    rw [LoopKey.decode, read_text h]
    rfl
  refine ⟨fun k => ⟨hkey k _ (isStringText_quote k.text), hkey k⟩, ?_, ?_, ?_, ?_, ?_, ?_, ?_⟩
  · exact ResetOptions.layout.exchanges (List.cons_ne_nil _ _)
  · exact Position.layout.exchanges (List.cons_ne_nil _ _)
  · exact LoopLimits.layout.exchanges (List.cons_ne_nil _ _)
  · exact ResetOptions.layout.isStrict (by simp [ResetOptions.layout]) rfl
  · exact Position.layout.isStrict (by simp [Position.layout]) rfl
  · exact fun l keys text h hnodup => LoopLimits.decode_object h hnodup
  · exact fun l n text h => LoopLimits.decode_array h

/-- A position in an object with spaces, a member that is none of its fields, and an escape in a
key. -/
theorem spelledPosition_decoded :
    IsObjectText (Position.layout.Holds ⟨7, 4294967295⟩) ["y", "column", "line"]
      "\x7b\"y\":[ \x7b\x7d, 1e9],\"column\":4294967295 ,\"l\\u0069ne\" : 7\x7d" ∧
    Position.decode "\x7b\"y\":[ \x7b\x7d, 1e9],\"column\":4294967295 ,\"l\\u0069ne\" : 7\x7d" =
      .ok ⟨7, 4294967295⟩ := by
  have hspace {cs rest : List Char} (h : Spaces cs rest) : Spaces (' ' :: cs) rest :=
    .more (by decide) h
  have hother (rest : List Char) :
      IsValue (['[', ' ', '\x7b', '\x7d', ',', ' ', '1', 'e', '9', ']'] ++ rest) rest := by
    have hexponent : IsExponent ('e' :: '9' :: ']' :: rest) (']' :: rest) :=
      .digits (.inl rfl) .none (.one (by decide))
    have hnumber : IsUnsigned ('1' :: 'e' :: '9' :: ']' :: rest) (']' :: rest) :=
      ⟨_, _, .digits (by decide) (.one (by decide)), .none, hexponent⟩
    exact .container .array (.more (.element (hspace .none) (.empty .object .none)) .none
      (.last (.element (hspace .none) (.scalar (.number hnumber))) .none))
  have hlarge : 4294967295 < 2 ^ 32 := by decide
  have hsmall : 7 < 2 ^ 32 := by decide
  have hy (rest : List Char) : Member (Position.layout.Holds ⟨7, 4294967295⟩) "y"
      ("\"y\":[ \x7b\x7d, 1e9]".toList ++ rest) rest :=
    ⟨.none, standsFor_quoted "y".toList _, .none, .none, hother rest,
      Layout.holds_of_notMem (by decide)⟩
  have hcolumn (rest : List Char) : Member (Position.layout.Holds ⟨7, 4294967295⟩) "column"
      ("\"column\":4294967295".toList ++ rest) rest :=
    ⟨.none, standsFor_quoted "column".toList _, .none, .none,
      .scalar (.number (Reader.isUnsigned_toDigits 4294967295 rest)),
      Layout.holds_of_mem (L := Position.layout) (s := Position.layout.slots[1])
        (List.getElem_mem _)
        ⟨hlarge, rfl⟩⟩
  have hline (rest : List Char) : Member (Position.layout.Holds ⟨7, 4294967295⟩) "line"
      ("\"l\\u0069ne\" : 7".toList ++ rest) rest := by
    have hkey : StandsFor ("l\\u0069ne\"".toList ++ ' ' :: ':' :: ' ' :: '7' :: rest) "line".toList
        (' ' :: ':' :: ' ' :: '7' :: rest) :=
      .plain (by decide) (by decide) (by decide) (.unit (by decide) (.plain (by decide) (by decide)
        (by decide) (.plain (by decide) (by decide) (by decide) .done)))
    exact ⟨.none, hkey, hspace .none, hspace .none,
      .scalar (.number (Reader.isUnsigned_toDigits 7 rest)),
      Layout.holds_of_mem (L := Position.layout) (s := Position.layout.slots[0])
        (List.getElem_mem _)
        ⟨hsmall, rfl⟩⟩
  have hmembers : Members (Position.layout.Holds ⟨7, 4294967295⟩) ["y", "column", "line"]
      "\"y\":[ \x7b\x7d, 1e9],\"column\":4294967295 ,\"l\\u0069ne\" : 7\x7d".toList [] :=
    .more (hy _) .none (.more (hcolumn _) (hspace .none) (.last (hline _) .none))
  have hobject : IsObjectText (Position.layout.Holds ⟨7, 4294967295⟩) ["y", "column", "line"]
      "\x7b\"y\":[ \x7b\x7d, 1e9],\"column\":4294967295 ,\"l\\u0069ne\" : 7\x7d" :=
    ⟨[], .members .none hmembers, .none⟩
  exact ⟨hobject, decode_exchanged.2.2.1.decode_of_perm _ _ _ hobject (by decide)⟩

end LoopGuard
