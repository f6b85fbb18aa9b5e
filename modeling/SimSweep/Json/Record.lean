import SimSweep.Json.Decoder
import SimSweep.Json.Printer

/-! # Records in JSON

    A record is an object whose members are the fields of a structure, in any
    order, or an array of the fields in their order. A field may be *required*,
    *nullable*, when its absence from an object counts as null, or have a default.
    Members of other names are passed over unless the record refuses them; a
    field must not be repeated.

    A record is read in two passes. The first walks over the text and meets every
    fault and every field that cannot be decoded in the order in which they
    stand; the second puts the fields together.
-/

namespace SimSweep.Json

/-- What is known of a field before its record is put together. -/
structure Field where
  name : String
  /-- Whether the value can be decoded. -/
  check : Decoder Unit
  /-- Whether an array may end before the field. -/
  mayBeLeftOut : Bool

/-- A way to decode records. -/
structure Record (α : Type) where
  /-- The fields in order. -/
  fields : List Field
  /-- The value, from the fields that were found. -/
  build : (String → Option Node) → Decoding α

namespace Record

/-! ## Section 1: Building records -/

/-- A decoder whose value does not matter. -/
def probe {α : Type} (d : Decoder α) : Decoder Unit := fun n => (d n).map fun _ => ()

/-- A record of one field that has to be there. -/
def required {α : Type} (name : String) (d : Decoder α) : Record α where
  fields := [⟨name, probe d, false⟩]
  build found := match found name with
    | some n => d n
    | none => Decoding.mismatch (.missingField name)

/-- A record of one field that may be null or absent. -/
def nullable {α : Type} (name : String) (d : Decoder α) : Record (Option α) where
  fields := [⟨name, probe (Decoder.nullable d), false⟩]
  build found := match found name with
    | some n => Decoder.nullable d n
    | none => .ok none

/-- A record of one field with a value that is taken in its absence. -/
def defaulted {α : Type} (name : String) (d : Decoder α) (value : α) : Record α where
  fields := [⟨name, probe d, true⟩]
  build found := match found name with
    | some n => d n
    | none => .ok value

/-- A record without fields. -/
def pure {α : Type} (value : α) : Record α := ⟨[], fun _ => .ok value⟩

/-- A record of the fields of two records. -/
def seq {α β : Type} (f : Record (α → β)) (x : Unit → Record α) : Record β where
  fields := f.fields ++ (x ()).fields
  build found := do
    let g ← f.build found
    return g (← (x ()).build found)

/-- A record whose fields have to agree. -/
def refine {α β : Type} (r : Record α) (f : α → Decoding β) : Record β where
  fields := r.fields
  build found := do f (← r.build found)

instance : Applicative Record where
  pure := Record.pure
  seq := Record.seq

/-! ## Section 2: Reading records -/

/-- Walks over the members of an object and returns those that are fields. -/
def findMembers (fields : List Field) (admitsOthers : Bool) (seen : List String) :
    List (Except Fault String × Node) → Decoding (List (String × Node))
  | [] => .ok []
  | (key, n) :: rest => do
    let name ← Decoding.ofText key
    match fields.find? fun field => field.name == name with
    | some field =>
      if seen.contains name then Decoding.mismatch (.repeatedField name)
      else
        field.check n
        return (name, n) :: (← findMembers fields admitsOthers (name :: seen) rest)
    | none =>
      if admitsOthers then
        n.skip
        findMembers fields admitsOthers seen rest
      else Decoding.mismatch (.unknownField name)

/-- What follows the last field in an array. A text that ends behind a comma is
    as malformed as one that goes on. -/
def noMoreItems (items : List Node) (ending : Option Fault) : Decoding Unit :=
  match items, ending with
  | [], none => .ok ()
  | [], some f => .error (.broken (if f.kind = .endInValue then .trailingCharacters else f.kind))
  | _ :: _, _ => .error (.broken .trailingCharacters)

/-- Walks over the items of an array and returns them under the names of the
    fields, and the items that are left. -/
def findItems (ending : Option Fault) :
    List Field → List Node → Decoding (List (String × Node) × List Node)
  | [], items => .ok ([], items)
  | field :: fields, n :: rest => do
    field.check n
    let (found, left) ← findItems ending fields rest
    return ((field.name, n) :: found, left)
  | field :: fields, [] => do
    Decoding.ofText (refuse ending)
    if field.mayBeLeftOut then findItems ending fields []
    else Decoding.mismatch .tooFewItems

/-- Decodes a record. One that admits others passes over members that are no
    fields. -/
def decode {α : Type} (r : Record α) (admitsOthers : Bool) : Decoder α
  | .object tooDeep members ending => do
    Decoding.ofText (refuse tooDeep)
    let found ← findMembers r.fields admitsOthers [] members
    Decoding.ofText (refuse ending)
    r.build fun name => found.lookup name
  | .array tooDeep items ending => do
    Decoding.ofText (refuse tooDeep)
    let (found, left) ← findItems ending r.fields items
    let a ← r.build fun name => found.lookup name
    noMoreItems left ending
    return a
  | n => n.refuseType

/-- The decoder of a record that passes over members that are no fields. -/
def decoder {α : Type} (r : Record α) : Decoder α := r.decode true

end Record

/-! ## Section 3: Codecs -/

/-- A way to write values of a type as JSON and to read them again. -/
structure Codec (α : Type) where
  encode : α → Value
  decode : Decoder α

namespace Codec

/-- Reads a text as a value. -/
def parse {α : Type} (c : Codec α) (cs : List Char) : Decoding α := do
  let d := Document.read cs
  let a ← c.decode d.root
  Decoding.ofText (refuse d.trailing)
  return a

/-- The text of a value on one line. -/
def text {α : Type} (c : Codec α) (a : α) : String := (c.encode a).text

/-- The codec of lists. -/
def list {α : Type} (c : Codec α) : Codec (List α) where
  encode xs := .array (xs.map c.encode)
  decode := Decoder.list c.decode

/-- The codec of binary64 numbers. What is not finite is written as null and
    cannot be read again. -/
def binary64 : Codec Binary64 := ⟨Value.ofBinary64, Decoder.binary64⟩

/-- The codec of whole numbers of 64 bits. -/
def int64 : Codec Int64 := ⟨fun i => Value.ofInt i.toInt, Decoder.int64⟩

/-- The codec of strings. -/
def string : Codec String := ⟨Value.string, Decoder.string⟩

/-- The codec of truth values. -/
def bool : Codec Bool := ⟨Value.bool, Decoder.bool⟩

end Codec

end SimSweep.Json
