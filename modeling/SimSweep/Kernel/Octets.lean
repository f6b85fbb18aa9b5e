/-! # Octets

    Inside the simulated system a text is a string whose characters stand for bytes:
    the code of each is below 256. What comes from outside is turned into such a
    text through its UTF-8 form.
-/

namespace SimSweep.Kernel.Octets

/-- The text of some bytes. -/
def ofBytes (bytes : ByteArray) : String :=
  bytes.foldl (fun s b => s.push (Char.ofNat b.toNat)) ""

/-- The bytes of a text. -/
def toBytes (s : String) : ByteArray :=
  s.foldl (fun bytes c => bytes.push (UInt8.ofNat c.toNat)) .empty

/-- The octets of a text from outside. -/
def ofText (s : String) : String := ofBytes s.toUTF8

end SimSweep.Kernel.Octets
