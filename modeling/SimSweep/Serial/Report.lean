import SimSweep.Json.Tagged
import SimSweep.Report
import SimSweep.Serial.Parameters
import SimSweep.Time.Reading

/-! # Reports in JSON

    The codecs of reports and of what they are made of. A timestamp is a string,
    a duration a record that takes no other fields, an ending a tagged record.
-/

namespace SimSweep

open Json (Codec Decoder Decoding Record Value)

/-- The codec of timestamps. -/
def Timestamp.codec : Codec Timestamp where
  encode t := .string (String.ofList t.text)
  decode n := do
    let s ← Decoder.string n
    match Timestamp.read? s.toList with
    | some t => return t
    | none => Decoding.mismatch (.notATimestamp s)

/-- The fields of a duration. Whole seconds among the nanoseconds are carried. -/
def Duration.fields : Record Duration :=
  let parts : Record (Nat × Nat) := Prod.mk <$> .required "secs" (Decoder.word 64)
    <*> .required "nanos" (Decoder.word 32)
  parts.refine fun (seconds, nanos) =>
    match Duration.ofParts? seconds nanos with
    | some d => .ok d
    | none => Decoding.mismatch .outOfRange

/-- The codec of durations. -/
def Duration.codec : Codec Duration where
  encode d := .object [("secs", .ofNat d.seconds), ("nanos", .ofNat d.nanos)]
  decode := Duration.fields.decode false

namespace Ending

/-- A status or a signal: a whole number of 32 bits with a sign. -/
def decodeCode : Decoder Int32 := fun n =>
  (Decoder.intBetween (-Nat.pow 2 31) (Nat.pow 2 31 - 1) n).map Int32.ofInt

/-- The fields of the ending of a name. -/
def variant? (name : String) : Option (Record Ending) :=
  if name = "success" then some (pure .success)
  else if name = "failed" then some (.failed <$> .required "code" decodeCode)
  else if name = "terminated" then some (.terminated <$> .nullable "signal" decodeCode)
  else if name = "launch_failed" then
    some (.notStarted <$> .required "reason" Decoder.string)
  else none

/-- The codec of endings. -/
def codec : Codec Ending where
  encode
    | .success => .object [("state", .string "success")]
    | .failed code => .object [("state", .string "failed"), ("code", .ofInt code.toInt)]
    | .terminated signal =>
      .object [("state", .string "terminated"),
        ("signal", .ofOption (fun s => .ofInt s.toInt) signal)]
    | .notStarted reason =>
      .object [("state", .string "launch_failed"), ("reason", .string reason)]
  decode := Json.Tagged.decode "state" variant?

end Ending

/-- The codec of the records of invocations. -/
def Invocation.codec : Codec Invocation where
  encode i := .object
    [("point", Point.codec.encode i.point), ("command", .string i.command),
     ("state", Ending.codec.encode i.ending), ("duration", Duration.codec.encode i.duration)]
  decode := Record.decoder <|
    Invocation.mk <$> .required "point" Point.codec.decode
      <*> .required "command" Decoder.string
      <*> .required "state" Ending.codec.decode
      <*> .required "duration" Duration.codec.decode

namespace Report

/-- The codec of reports. -/
def codec : Codec Report where
  encode r := .object
    [("started_at", Timestamp.codec.encode r.startedAt),
     ("total_duration", Duration.codec.encode r.totalDuration),
     ("outcomes", .array (r.invocations.map Invocation.codec.encode))]
  decode := Record.decoder <|
    Report.mk <$> .required "started_at" Timestamp.codec.decode
      <*> .required "total_duration" Duration.codec.decode
      <*> .required "outcomes" (.list Invocation.codec.decode)

/-- The indented JSON text of a report, if it can be written. -/
def jsonText (r : Report) : Except Failure String :=
  (((codec.encode r).render .pretty).map String.ofList).mapError .ofWriteFault

end Report

end SimSweep
