import LoopGuard.Json.ValueReader

/-!
# Records

The decoders that `serde` derives for structures. Records are written as objects, whose members may
come in any order, or as arrays of their fields in the order in which they are declared. Members
that are no fields are skipped, and a field that comes twice is a fault. A record is read field by
field into a blank one; a field that is left out is a fault or keeps its value there.

A `Record` is what differs between such decoders: the fields with their names, types and defaults. A
`ScalarRecord` has only strings and numbers for fields, and can also be made from a value that has
been read already, which is a decoder of its own with messages that name no place.

Results:
* `Record.missing?_eq_none_iff`: no field is missing when all that are required have been seen.
-/

namespace LoopGuard

namespace Json

/-- How a kind of value is read, from text and from a value that has been read already. -/
structure Decoder (α : Type) where
  read : Reader α
  ofValue : Value → Except Fault α

namespace Decoder

/-- Strings. -/
def string : Decoder String where
  read := Reader.text
  ofValue
    | .string s => .ok s
    | v => .error (.invalidType (.ofValue v) "a string")

/-- Natural numbers of at most `bits` bits, of a kind called `name`. -/
def natural (bits : Nat) (name : String) : Decoder Nat where
  read := Reader.natural bits name
  ofValue
    | .number (.natural n) =>
      if n < 1 <<< bits then .ok n else .error (.invalidValue (.number (.natural n)) name)
    | .number (.negative n) => .error (.invalidValue (.number (.negative n)) name)
    | v => .error (.invalidType (.ofValue v) name)

/-- Natural numbers of 32 bits. -/
def word32 : Decoder Nat := natural 32 "u32"

/-- Natural numbers of 64 bits. -/
def word64 : Decoder Nat := natural 64 "u64"

end Decoder

/-- A field of a record, with how it is read and whether it may be missing. -/
structure Field (α : Type) where
  name : String
  isRequired : Bool
  /-- Reads the field into a record. -/
  read : α → Reader α

/-- A kind of record. -/
structure Record (α : Type) where
  /-- What the kind is called. -/
  name : String
  fields : List (Field α)
  /-- The record before any field has been read. -/
  blank : α
  /-- An array may break off before the last field. -/
  allowsShortArray : Bool

/-- A record of which some fields have been read. -/
structure PartialRecord (α : Type) where
  value : α
  seen : List String

namespace Record

/-- The record of which nothing has been read. -/
def start (r : Record α) : PartialRecord α := ⟨r.blank, []⟩

/-- The field with this name. -/
def field? (r : Record α) (key : String) : Option (Field α) := r.fields.find? (·.name == key)

/-- What an array of another length should have been. -/
def expectedLength (r : Record α) : String :=
  "struct " ++ r.name ++ " with " ++ Nat.repr r.fields.length ++ " element"
    ++ (if r.fields.length == 1 then "" else "s")

/-- The first required field that has not been seen, in the order of declaration. -/
def missing? (r : Record α) (seen : List String) : Option (Field α) :=
  r.fields.find? fun f => f.isRequired && !seen.contains f.name

theorem missing?_eq_none_iff {r : Record α} {seen : List String} :
    r.missing? seen = none ↔
      ∀ f ∈ r.fields, f.isRequired = true → seen.contains f.name = true := by
  simp [missing?, List.find?_eq_none]

/-- Reads what stands behind a key. -/
def member (r : Record α) (key : String) (p : PartialRecord α) : Reader (PartialRecord α) := do
  match r.field? key with
  | none =>
    Reader.colon
    Reader.skip
    return p
  | some f =>
    if p.seen.contains key then Reader.failValue (.duplicateField key)
    else
      Reader.colon
      return ⟨← f.read p.value, key :: p.seen⟩

/-- The record when all members have been read. -/
def complete (r : Record α) (p : PartialRecord α) : Reader α :=
  match r.missing? p.seen with
  | some f => Reader.failValue (.missingField f.name)
  | none => return p.value

/-- Reads the elements of an array as the fields, in their order. -/
def elements (r : Record α) : Nat → List (Field α) → α → Reader α
  | _, [], a => return a
  | index, f :: rest, a => do
    if ← Reader.moreItems (index == 0) then elements r (index + 1) rest (← f.read a)
    else if r.allowsShortArray then return a
    else Reader.failValue (.invalidLength index r.expectedLength)

/-- Reads a record. -/
def read (r : Record α) : Reader α := Reader.placed do
  match ← Reader.token with
  | none => Reader.failNext .endInValue
  | some '[' =>
    Reader.drop
    Reader.arrayBody do elements r 0 r.fields r.blank
  | some '\x7b' =>
    Reader.drop
    Reader.objectBody do complete r (← Reader.members r.member (← Reader.fuelHere) true r.start)
  | some _ => Reader.unexpected ("struct " ++ r.name)

end Record

/-- A field that holds a string or a number. -/
structure ScalarField (α : Type) extends Field α where
  /-- Stores the field, given as a value, into a record. -/
  ofValue : α → Value → Except Fault α

/-- The field that a decoder reads and an update stores. -/
def ScalarField.of (name : String) (isRequired : Bool) (d : Decoder β) (set : α → β → α) :
    ScalarField α where
  name
  isRequired
  read a := return set a (← d.read)
  ofValue a v := (d.ofValue v).map (set a)

/-- A kind of record whose fields hold strings and numbers. -/
structure ScalarRecord (α : Type) where
  name : String
  fields : List (ScalarField α)
  blank : α
  allowsShortArray : Bool

namespace ScalarRecord

/-- The kind of record, without how it is made from values. -/
def toRecord (r : ScalarRecord α) : Record α :=
  ⟨r.name, r.fields.map (·.toField), r.blank, r.allowsShortArray⟩

/-- Reads a record. -/
def read (r : ScalarRecord α) : Reader α := r.toRecord.read

/-- Stores the members of an object; keeps the names of the fields that have been stored. -/
def ofMembers (r : ScalarRecord α) :
    List (String × Value) → PartialRecord α → Except Fault (PartialRecord α)
  | [], p => .ok p
  | (key, v) :: rest, p =>
    match r.fields.find? (·.name == key) with
    | none => ofMembers r rest p
    | some f => do ofMembers r rest ⟨← f.ofValue p.value v, key :: p.seen⟩

/-- Stores the elements of an array as the fields, in their order. -/
def ofElements (r : ScalarRecord α) (length : Nat) :
    Nat → List (ScalarField α) → List Value → α → Except Fault α
  | _, [], [], a => .ok a
  | _, [], _ :: _, _ => .error (.invalidLength length "fewer elements in array")
  | index, _ :: _, [], a =>
    if r.allowsShortArray then .ok a else .error (.invalidLength index r.toRecord.expectedLength)
  | index, f :: fields, v :: rest, a => do
    ofElements r length (index + 1) fields rest (← f.ofValue a v)

/-- The record that a value stands for. -/
def ofValue (r : ScalarRecord α) : Value → Except Fault α
  | .array vs => ofElements r vs.length 0 r.fields vs r.blank
  | .object members => do
    let p ← ofMembers r members r.toRecord.start
    match r.toRecord.missing? p.seen with
    | some f => .error (.missingField f.name)
    | none => .ok p.value
  | v => .error (.invalidType (.ofValue v) ("struct " ++ r.name))

end ScalarRecord

end Json

end LoopGuard
