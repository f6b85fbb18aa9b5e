import SimSweep.Json.Record

/-! # Tagged records in JSON

    The value of a type with several variants is an object in which one member,
    the *tag*, names the variant and the others are the fields of that variant;
    or an array that starts with the name. Since the tag may stand anywhere, the
    whole text is read before the fields are looked at.
-/

namespace SimSweep.Json.Tagged

/-- The variant that the tag among some members names. Every other member has to
    be free of faults. -/
def findTag {α : Type} (tag : String) (variant? : String → Option (Record α))
    (seen : Option (Record α)) :
    List (Except Fault String × Node) → Decoding (Option (Record α))
  | [] => .ok seen
  | (key, n) :: rest => do
    let name ← Decoding.ofText key
    if name = tag then
      if seen.isSome then Decoding.mismatch (.repeatedField tag)
      else
        let r ← Decoder.ofName variant? n
        findTag tag variant? (some r) rest
    else
      let _ ← Decoding.ofText n.value
      findTag tag variant? seen rest

/-- Whether a member is not the tag. -/
def isField (tag : String) : Except Fault String × Node → Bool
  | (.ok name, _) => name != tag
  | (.error _, _) => true

/-- Decodes a tagged record. -/
def decode {α : Type} (tag : String) (variant? : String → Option (Record α)) : Decoder α
  | .object tooDeep members ending => do
    Decoding.ofText (refuse tooDeep)
    let found ← findTag tag variant? none members
    Decoding.ofText (refuse ending)
    match found with
    | none => Decoding.mismatch (.missingField tag)
    | some r => r.decoder (.object none (members.filter (isField tag)) none)
  | .array tooDeep items ending => do
    Decoding.ofText (refuse tooDeep)
    match items with
    | [] =>
      Decoding.ofText (refuse ending)
      Decoding.mismatch (.missingField tag)
    | n :: rest =>
      let r ← Decoder.ofName variant? n
      rest.forM fun item => do
        let _ ← Decoding.ofText item.value
      Decoding.ofText (refuse ending)
      if r.fields.length < rest.length then Decoding.mismatch .tooManyItems
      else r.decoder (.array none rest none)
  | n => n.refuseType

end SimSweep.Json.Tagged
