import SimSweep.Serial.Entry
import SimSweep.Settings
import SimSweep.Text.Layout
import SimSweep.Text.Quoted
import SimSweep.Text.Utf8

/-! # Loggers

    A logger writes the entries at or above its level, one line each: for the
    console with the fields in braces, or as JSON. Loggers of one session add the
    session to every entry.

    The fields of an entry have no order of their own, so a line is made from a listing
    of them. A line of JSON keeps the order of the listing, and a line on the console
    does not depend on it.
-/

namespace SimSweep.Log

/-- How a logger writes. -/
structure Logger where
  name : String
  /-- The least level that is written. -/
  threshold : Level
  colors : Bool
  showsLocation : Bool
  writesJson : Bool
  session : Option String := none
  deriving DecidableEq

/-- The least level that is written under some settings. -/
def Level.ofSettings (s : Settings) : Level :=
  if s.debug then .debug else if s.verbose then .info else .warn

namespace Logger

/-- The logger of a name under some settings. -/
def ofSettings (name : String) (s : Settings) : Logger where
  name := name
  threshold := .ofSettings s
  colors := s.colors
  showsLocation := s.debug
  writesJson := s.jsonReport

/-- The logger of a name in a session. -/
def inSession (name session : String) (s : Settings) : Logger :=
  { ofSettings name s with session := some session }

/-! ## Section 1: The console -/

/-- The tag of a level, five characters wide. -/
def tagText (logger : Logger) (level : Level) : StyledText :=
  [{ style := if logger.colors then .colored level.color else .plain,
     text := padLeft ' ' 5 level.tag.toList }]

/-- The text of a field. -/
def fieldText : String × Json.Value → List Char
  | (key, value) => key.toList ++ '=' :: value.compact

/-- The order of fields by the bytes of their keys. -/
def byteOrder (m m' : String × Json.Value) : Bool :=
  decide (Utf8.encode m.1.toList ≤ Utf8.encode m'.1.toList)

/-- Fields that are listed in some order, in braces and sorted, if there are any. -/
def fieldsText (listing : List (String × Json.Value)) : List Char :=
  if listing.isEmpty then []
  else
    " \x7b".toList ++ joinWith ", ".toList ((listing.mergeSort byteOrder).map fieldText) ++
      ['\x7d']

/-- The location, if it is shown. -/
def locationText (logger : Logger) (e : Entry) : List Char :=
  match logger.showsLocation, e.location with
  | true, some l => " @ ".toList ++ l.file.toList ++ ':' :: Decimal.digitsOf l.line.toNat
  | _, _ => []

/-- The line of an entry on the console, whose fields are listed in some order. -/
def consoleText (logger : Logger) (e : Entry) (listing : List (String × Json.Value)) :
    StyledText :=
  [{ text := e.timestamp.clockMillis ++ [' '] }] ++ logger.tagText e.level ++
  [{ text :=
      " [".toList ++ e.logger.toList ++ "] ".toList ++ e.message.toList ++
        fieldsText listing ++ logger.locationText e }]

/-! ## Section 2: Writing -/

/-- An entry with the session of the logger. -/
def inscribe (logger : Logger) (e : Entry) : Entry :=
  match logger.session with
  | none => e
  | some session => { e with fields := e.fields.set "session_id" (.string session) }

/-- Whether an entry is written. -/
def admits (logger : Logger) (level : Level) : Bool := decide (logger.threshold.rank ≤ level.rank)

/-- The line of an entry that cannot be written as JSON: its message alone. -/
def spareText (e : Entry) : List Char :=
  "\x7b\"message\": ".toList ++ quoted e.message.toList ++ ['\x7d']

/-- The line of an entry whose fields are listed in some order. As JSON they are written in
    this order, on the console they are sorted. -/
def lineOver (logger : Logger) (emits : Bool) (e : Entry) (listing : List (String × Json.Value)) :
    List Char :=
  if logger.writesJson then
    match (e.encodeListing listing).render .compact with
    | .ok line => line
    | .error _ => spareText e
  else (logger.consoleText e listing).paint emits

/-- The line of an entry. -/
def lineText (logger : Logger) (emits : Bool) (e : Entry) : List Char :=
  logger.lineOver emits e e.fields.members

/-- The line that a remark makes at some time, with its end, unless its level is
    too low. -/
def write (logger : Logger) (emits : Bool) (time : Timestamp) (r : Remark) : List Char :=
  if logger.admits r.level then
    logger.lineText emits (logger.inscribe (r.entry time logger.name)) ++ ['\n']
  else []

end Logger

end SimSweep.Log
