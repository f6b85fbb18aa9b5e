import SimSweep.Json.Node

/-! # Decoding JSON

    A decoder takes the value of some type out of a JSON text. It is given the
    text as a tree that keeps the faults of the text in their places, and it walks
    that tree from left to right, so that of a fault of the text and a value that
    does not fit the one that stands further left is reported.
-/

namespace SimSweep.Json

/-- Why a well-formed text is not the text of a value. -/
inductive Mismatch where
  | wrongType
  | outOfRange
  | missingField (name : String)
  | repeatedField (name : String)
  | unknownField (name : String)
  | unknownName (name : String)
  | tooFewItems
  | tooManyItems
  | notATimestamp (text : String)
  deriving DecidableEq

/-- Why decoding ended. -/
inductive DecodeFault where
  | broken (kind : FaultKind)
  | mismatch (reason : Mismatch)
  deriving DecidableEq

/-- The kinds of reasons why decoding ends. -/
inductive DecodeFault.Category where
  /-- The text is not JSON. -/
  | malformed
  /-- The text ends too early. -/
  | truncated
  /-- The text says something else than what it is decoded as. -/
  | mismatched
  deriving DecidableEq

/-- The kind of a reason why decoding ends. -/
def DecodeFault.category : DecodeFault → DecodeFault.Category
  | .broken kind => if kind.isEnd then .truncated else .malformed
  | .mismatch _ => .mismatched

/-- The result of decoding. -/
abbrev Decoding (α : Type) := Except DecodeFault α

/-- A way to take values of a type out of a text. -/
abbrev Decoder (α : Type) := Node → Decoding α

namespace Decoding

/-- A value that does not fit. -/
def mismatch {α : Type} (reason : Mismatch) : Decoding α := .error (.mismatch reason)

/-- A part of the text, or its fault. -/
def ofText {α : Type} : Except Fault α → Decoding α :=
  Except.mapError fun f => .broken f.kind

end Decoding

/-! ## Section 1: Parts that are not wanted -/

/-- The refusal of a value of another type. Numbers and strings are read before
    they are refused, arrays and objects are not. -/
def Node.refuseType {α : Type} : Node → Decoding α
  | .number (.error f) | .string (.error f) | .broken _ f => .error (.broken f.kind)
  | _ => Decoding.mismatch .wrongType

/-- The fault of a part that is passed over. It need only be followed to its end,
    and a numeral that ends too early counts as a bad one there. -/
def passedOver (f : Fault) : DecodeFault :=
  .broken (if f.kind = .endInNumber then .badNumber else f.kind)

/-- Whether a fault of a key is one that does not matter where it is passed over. -/
def isHarmless (f : Fault) : Bool :=
  f.kind == .loneSurrogate || f.kind == .brokenSurrogatePair

mutual

/-- Passes over a value. What it says does not matter as long as it has an end. -/
def Node.skip : Node → Decoding Unit
  | .broken _ f => .error (passedOver f)
  | .array _ items ending => do
    skipItems items
    Decoding.ofText (refuse ending)
  | .object _ members ending => do
    skipMembers members
    Decoding.ofText (refuse ending)
  | _ => .ok ()

/-- Passes over the items of an array. -/
def skipItems : List Node → Decoding Unit
  | [] => .ok ()
  | n :: rest => do
    n.skip
    skipItems rest

/-- Passes over the members of an object. -/
def skipMembers : List (Except Fault String × Node) → Decoding Unit
  | [] => .ok ()
  | (key, n) :: rest => do
    match key with
    | .ok _ => pure ()
    | .error f => if isHarmless f then pure () else .error (.broken f.kind)
    n.skip
    skipMembers rest

end

/-! ## Section 2: Basic types -/

namespace Decoder

/-- A truth value. -/
def bool : Decoder Bool
  | .bool b => .ok b
  | n => n.refuseType

/-- A string. -/
def string : Decoder String
  | .string (.ok s) => .ok s
  | n => n.refuseType

/-- A binary64 number; a whole number is rounded to one. -/
def binary64 : Decoder Binary64
  | .number (.ok (.float x)) => .ok x
  | .number (.ok (.natural n)) => .ok (Binary64.ofRatio false n 1)
  | .number (.ok (.negative n)) => .ok (Binary64.ofRatio true n 1)
  | n => n.refuseType

end Decoder

/-- The whole number that a number is, if it lies between two bounds. -/
def Number.between (lo hi : Int) : Number → Decoding Int
  | .natural n => if (n : Int) ≤ hi then .ok n else Decoding.mismatch .outOfRange
  | .negative n => if lo ≤ -(n : Int) then .ok (-(n : Int)) else Decoding.mismatch .outOfRange
  | .float _ => Decoding.mismatch .wrongType

namespace Decoder

/-- A whole number between two bounds. -/
def intBetween (lo hi : Int) : Decoder Int
  | .number (.ok n) => n.between lo hi
  | n => n.refuseType

/-- A whole number of 64 bits with a sign. -/
def int64 : Decoder Int64 := fun n =>
  (intBetween (-Nat.pow 2 63) (Nat.pow 2 63 - 1) n).map Int64.ofInt

/-- A whole number that is not negative and fits some bits. -/
def word (bits : Nat) : Decoder Nat := fun n => (intBetween 0 (Nat.pow 2 bits - 1) n).map Int.toNat

/-- A value that may be null. -/
def nullable {α : Type} (d : Decoder α) : Decoder (Option α)
  | .null => .ok none
  | n => (d n).map some

/-- A list of values. -/
def list {α : Type} (d : Decoder α) : Decoder (List α)
  | .array tooDeep items ending => do
    Decoding.ofText (refuse tooDeep)
    let xs ← items.mapM d
    Decoding.ofText (refuse ending)
    return xs
  | n => n.refuseType

/-- Any value; objects are in canonical form. -/
def value : Decoder Value := fun n => Decoding.ofText n.value

/-- An object with free keys; the last of several members with one key stays. -/
def dictionary {α : Type} (d : Decoder α) : Decoder (List (String × α))
  | .object tooDeep members ending => do
    Decoding.ofText (refuse tooDeep)
    let xs ← members.mapM fun (key, n) => do
      let k ← Decoding.ofText key
      return (k, ← d n)
    Decoding.ofText (refuse ending)
    return xs
  | n => n.refuseType

/-! ## Section 3: Names -/

/-- The name that a string is, as one of some values. -/
def ofName {α : Type} (ofName? : String → Option α) : Decoder α := fun n => do
  let s ← string n
  match ofName? s with
  | some a => return a
  | none => Decoding.mismatch (.unknownName s)

/-- What follows the only member that an object may have. A second one is as
    malformed as anything else but the end. -/
def soleMember (others : List (Except Fault String × Node)) (ending : Option Fault) :
    Decoding Unit :=
  match others, ending with
  | [], none => .ok ()
  | [], some f =>
    .error (.broken (if f.kind = .endInObject then .endInObject else .noValue))
  | _, _ => .error (.broken .noValue)

/-- One of some values by its name: a string, or an object whose only member has
    the name as its key and null as its value. Anything that starts in another way
    is not even read. -/
def named {α : Type} (ofName? : String → Option α) : Decoder α
  | .string content => ofName ofName? (.string content)
  | .broken none f | .broken (some '"') f => .error (.broken f.kind)
  | .object tooDeep members ending => do
    Decoding.ofText (refuse tooDeep)
    match members with
    | [] =>
      Decoding.ofText (refuse ending)
      .error (.broken .noValue)
    | (.error f, _) :: _ => .error (.broken f.kind)
    | (.ok key, n) :: others =>
      let a ← ofName ofName? (.string (.ok key))
      match n with
      | .null => soleMember others ending
      | n => n.refuseType
      return a
  | _ => .error (.broken .noValue)

end Decoder

end SimSweep.Json
