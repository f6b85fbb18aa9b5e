import SimSweep.Log.Entry
import SimSweep.Serial.Report

/-! # Log entries in JSON

    The codecs of levels and entries. An entry is a record with an object of free
    fields in it; its location may be absent.
-/

namespace SimSweep.Log

open Json (Codec Decoder Record Value)

/-- The codec of levels. -/
def Level.codec : Codec Level where
  encode l := .string l.name
  decode := Decoder.named Level.ofName?

/-- The codec of locations. -/
def Location.codec : Codec Location where
  encode l := .object
    [("file", .string l.file), ("line", .ofNat l.line.toNat),
     ("module", .ofOption .string l.module)]
  decode := Record.decoder <|
    Location.mk <$> .required "file" Decoder.string
      <*> .required "line" (fun n => (Decoder.word 32 n).map UInt32.ofNat)
      <*> .nullable "module" Decoder.string

/-- Free fields. -/
def Fields.decode : Decoder Fields := fun n =>
  (Decoder.dictionary Decoder.value n).map Fields.ofMembers

/-- An entry whose fields are listed in some order. -/
def Entry.encodeListing (e : Entry) (listing : List (String × Value)) : Value :=
  .object
    [("timestamp", Timestamp.codec.encode e.timestamp), ("level", Level.codec.encode e.level),
     ("message", .string e.message), ("logger", .string e.logger), ("fields", .object listing),
     ("location", .ofOption Location.codec.encode e.location)]

/-- The codec of entries. -/
def Entry.codec : Codec Entry where
  encode e := e.encodeListing e.fields.members
  decode := Record.decoder <|
    Entry.mk <$> .required "timestamp" Timestamp.codec.decode
      <*> .required "level" Level.codec.decode
      <*> .required "message" Decoder.string
      <*> .required "logger" Decoder.string
      <*> .required "fields" Fields.decode
      <*> .nullable "location" Location.codec.decode

end SimSweep.Log
