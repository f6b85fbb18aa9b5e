import SimSweep.Json.Record
import SimSweep.Settings

/-! # Sweep parameters in JSON

    The codecs of points, plans, templates, presets and settings. All but the
    presets are records; the flags of settings may be left out.
-/

namespace SimSweep

open Json (Codec Decoder Record Value)

/-- The codec of points. -/
def Point.codec : Codec Point where
  encode p := .object
    [("data_rate", .ofBinary64 p.rate), ("distance", .ofBinary64 p.distance),
     ("run", .ofInt p.run.toInt)]
  decode := Record.decoder <|
    Point.mk <$> .required "data_rate" Decoder.binary64
      <*> .required "distance" Decoder.binary64
      <*> .required "run" Decoder.int64

/-- A list of numbers. -/
def Json.Value.ofNumbers (xs : List Binary64) : Value := .array (xs.map .ofBinary64)

/-- The codec of plans. -/
def Plan.codec : Codec Plan where
  encode p := .object
    [("data_rates", .ofNumbers p.rates), ("distances", .ofNumbers p.distances),
     ("start_run", .ofInt p.firstRun.toInt), ("end_run", .ofInt p.lastRun.toInt)]
  decode := Record.decoder <|
    Plan.mk <$> .required "data_rates" (.list .binary64)
      <*> .required "distances" (.list .binary64)
      <*> .required "start_run" Decoder.int64
      <*> .required "end_run" Decoder.int64

/-- The codec of templates. -/
def Template.codec : Codec Template where
  encode t := .object
    [("launcher", .string t.launcher), ("scenario", .string t.scenario),
     ("program", .string t.program)]
  decode := Record.decoder <|
    Template.mk <$> .required "launcher" Decoder.string
      <*> .required "scenario" Decoder.string
      <*> .required "program" Decoder.string

/-- The codec of presets. -/
def Preset.codec : Codec Preset where
  encode p := .string p.name
  decode := Decoder.named Preset.ofName?

/-- Settings from their fields in the order of the record. -/
def Settings.ofFields (rates distances : List Binary64) (firstRun lastRun : Int64)
    (launcher scenario program : String)
    (dryRun strict jsonReport colors verbose debug : Bool) : Settings :=
  { rates, distances, firstRun, lastRun, launcher, scenario, program, dryRun, strict,
    jsonReport, colors, verbose, debug }

/-- The codec of settings. -/
def Settings.codec : Codec Settings where
  encode s := .object
    [("data_rates", .ofNumbers s.rates), ("distances", .ofNumbers s.distances),
     ("start_run", .ofInt s.firstRun.toInt), ("end_run", .ofInt s.lastRun.toInt),
     ("launcher", .string s.launcher), ("scenario", .string s.scenario),
     ("program", .string s.program), ("dry_run", .bool s.dryRun), ("strict", .bool s.strict),
     ("json_summary", .bool s.jsonReport), ("enable_color", .bool s.colors),
     ("verbose", .bool s.verbose), ("debug", .bool s.debug)]
  decode := Record.decoder <|
    Settings.ofFields <$> .required "data_rates" (.list .binary64)
      <*> .required "distances" (.list .binary64)
      <*> .required "start_run" Decoder.int64
      <*> .required "end_run" Decoder.int64
      <*> .required "launcher" Decoder.string
      <*> .required "scenario" Decoder.string
      <*> .required "program" Decoder.string
      <*> .defaulted "dry_run" Decoder.bool false
      <*> .defaulted "strict" Decoder.bool false
      <*> .defaulted "json_summary" Decoder.bool false
      <*> .defaulted "enable_color" Decoder.bool true
      <*> .defaulted "verbose" Decoder.bool false
      <*> .defaulted "debug" Decoder.bool false

end SimSweep
