import SimSweep.Failure
import SimSweep.Json.Value
import SimSweep.Plan
import SimSweep.Terminal.Style
import SimSweep.Time.Timestamp

/-! # Log entries

    An entry has a level, a message and fields with values under free names. What
    is to be said is first put together as a *remark*: a message with notes that
    are applied in order, so that of several notes on one field the last stays.
-/

namespace SimSweep.Log

/-! ## Section 1: Levels -/

/-- How much an entry matters. -/
inductive Level where
  | debug
  | info
  | warn
  deriving DecidableEq

namespace Level

/-- The place of a level in the order of levels. -/
def rank : Level → Nat
  | .debug => 0
  | .info => 1
  | .warn => 2

/-- The tag of a level on the console. -/
def tag : Level → String
  | .debug => "DEBUG"
  | .info => "INFO"
  | .warn => "WARN"

/-- The name of a level in JSON. -/
def name : Level → String
  | .debug => "Debug"
  | .info => "Info"
  | .warn => "Warn"

/-- The level of a name. -/
def ofName? (s : String) : Option Level :=
  [Level.debug, .info, .warn].find? fun l => l.name == s

/-- The color of a level. -/
def color : Level → Color
  | .debug => .cyan
  | .info => .green
  | .warn => .yellow

end Level

/-! ## Section 2: Entries -/

/-- A place in the program. -/
structure Location where
  file : String
  line : UInt32
  module : Option String
  deriving DecidableEq

/-- The fields of an entry: each key has one value. In what order they are held makes no
    difference to an entry, so they are held in increasing order of their keys. -/
structure Fields where
  members : List (String × Json.Value) := []
  sorted : Json.Value.IsSorted members := by exact .nil

namespace Fields

/-- Sets a field. The value is kept in canonical form. -/
def set (fields : Fields) (key : String) (value : Json.Value) : Fields where
  members := Json.Value.setMember key value.canonical fields.members
  sorted := fields.sorted.setMember key value.canonical

/-- The fields that some members make; the last of several with one key stays. -/
def ofMembers (members : List (String × Json.Value)) : Fields where
  members := Json.Value.sortMembers members
  sorted := Json.Value.isSorted_sortMembers members

/-- The value under a key. -/
def lookup (fields : Fields) (key : String) : Option Json.Value := fields.members.lookup key

@[simp] theorem lookup_set_self (fields : Fields) (key : String) (value : Json.Value) :
    (fields.set key value).lookup key = some value.canonical :=
  Json.Value.lookup_setMember_self ..

@[simp] theorem lookup_set_of_ne (fields : Fields) {key other : String} (h : other ≠ key)
    (value : Json.Value) : (fields.set key value).lookup other = fields.lookup other :=
  Json.Value.lookup_setMember_of_ne h ..

end Fields

/-- A log entry. -/
structure Entry where
  timestamp : Timestamp
  level : Level
  message : String
  logger : String
  fields : Fields := {}
  location : Option Location := none

/-! ## Section 3: Remarks -/

/-- Something that is added to an entry. -/
inductive Note where
  /-- A field; a value that JSON cannot represent leaves it as it is. -/
  | field (key : String) (value : Option Json.Value)
  /-- The parameters of a point. -/
  | point (p : Point)
  /-- The kind of a failure. -/
  | failure (f : Failure)
  | location (place : Location)

/-- A field with a value that JSON can represent. -/
def Note.value (key : String) (value : Json.Value) : Note := .field key (some value)

/-- The fields of a point. -/
def pointFields (p : Point) : List (String × Json.Value) :=
  [("data_rate", .ofBinary64 p.rate), ("distance", .ofBinary64 p.distance),
   ("run", .ofInt p.run.toInt), ("seed", .ofInt p.seed.toInt)]

/-- The fields of a failure. -/
def failureFields (f : Failure) : List (String × Json.Value) :=
  [("error_category", .string f.category), ("error_exit_code", .ofNat f.exitCode)]

/-- The fields that a note sets, in order. -/
def Note.fields : Note → List (String × Json.Value)
  | .field key (some value) => [(key, value)]
  | .field _ none => []
  | .point p => pointFields p
  | .failure f => failureFields f
  | .location _ => []

/-- The place that a note gives, if it gives one. -/
def Note.location? : Note → Option Location
  | .location place => some place
  | _ => none

/-- An entry with a note. -/
def Entry.add (e : Entry) (note : Note) : Entry :=
  { e with
    fields := note.fields.foldl (fun fields (key, value) => fields.set key value) e.fields
    location := note.location?.or e.location }

/-- Something to be said. -/
structure Remark where
  level : Level
  message : String
  notes : List Note := []

/-- The entry of a remark that is made at some time through a logger. -/
def Remark.entry (r : Remark) (timestamp : Timestamp) (logger : String) : Entry :=
  r.notes.foldl Entry.add { timestamp, level := r.level, message := r.message, logger }

end SimSweep.Log
