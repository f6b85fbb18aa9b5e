import SimSweep.Number.Decimal

/-! # Names of sessions

    All loggers of one run of the program share the name of a session: a random
    UUID, that is, sixteen bytes of which six bits say that the others are random.
-/

namespace SimSweep.Log.Session

/-- The bytes of a UUID with the bits that mark them as random. -/
def marked (bytes : List UInt8) : List UInt8 :=
  bytes.zipIdx.map fun (b, i) =>
    if i = 6 then b &&& 0x0f ||| 0x40 else if i = 8 then b &&& 0x3f ||| 0x80 else b

/-- The two digits of a byte in base sixteen. -/
def hexByte (b : UInt8) : List Char :=
  Nat.toDigits 16 (b.toNat / 16) ++ Nat.toDigits 16 (b.toNat % 16)

/-- The digits of bytes with dashes in front of the bytes of some places. -/
def dashed (bytes : List UInt8) : List Char :=
  bytes.zipIdx.flatMap fun (b, i) => (if i ∈ [4, 6, 8, 10] then ['-'] else []) ++ hexByte b

/-- The name of a session from sixteen random bytes. -/
def name (bytes : List UInt8) : String := String.ofList (dashed (marked bytes))

end SimSweep.Log.Session
