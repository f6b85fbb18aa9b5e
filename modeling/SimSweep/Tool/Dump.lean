import SimSweep.Tool.Lines

/-! # Tools that write bytes in other ways

    Bytes as numbers in lines with their places, bytes as letters of a small alphabet and
    back, and bytes copied in blocks.
-/

namespace SimSweep.Tool

open Kernel

/-! ## Section 1: Bytes as numbers -/

/-- How bytes are written. -/
structure DumpForm where
  /-- A letter for the kind: digits in base eight, ten or sixteen, with a sign or
      without, characters or their names. -/
  kind : Char
  /-- The number of bytes that are one number. -/
  size : Nat
  /-- Whether the characters are shown at the end of the line. -/
  showsText : Bool := false

/-- The names of the bytes that cannot be seen. -/
def byteNames : List String :=
  ["nul", "soh", "stx", "etx", "eot", "enq", "ack", "bel", "bs", "ht", "nl", "vt", "ff", "cr",
   "so", "si", "dle", "dc1", "dc2", "dc3", "dc4", "nak", "syn", "etb", "can", "em", "sub", "esc",
   "fs", "gs", "rs", "us", "sp"]

/-- A byte as a character in a dump. -/
def byteText (isNamed : Bool) (n : Nat) : String :=
  if isNamed then
    let n := n % 128
    if n = 127 then "del" else (byteNames[n]?).getD (String.singleton (Char.ofNat n))
  else
    match n with
    | 0 => "\\0"
    | 7 => "\\a"
    | 8 => "\\b"
    | 9 => "\\t"
    | 10 => "\\n"
    | 11 => "\\v"
    | 12 => "\\f"
    | 13 => "\\r"
    | n =>
      if 32 ≤ n ∧ n < 127 then String.singleton (Char.ofNat n)
      else
        let ds := Nat.toDigits 8 n
        String.ofList (List.replicate (3 - ds.length) '0' ++ ds)

/-- A number in a dump, and how wide such numbers are. -/
def numberInDump (f : DumpForm) (n : Nat) : String × Nat :=
  let bits := 8 * f.size
  let inBase (base width : Nat) : String × Nat :=
    let ds := Nat.toDigits base n
    (String.ofList (List.replicate (width - ds.length) '0' ++ ds), width)
  match f.kind with
  | 'c' => (byteText false n, 3)
  | 'a' => (byteText true n, 3)
  | 'o' => inBase 8 ((bits + 2) / 3)
  | 'x' => inBase 16 (2 * f.size)
  | 'u' => (digits n, (digits (Nat.pow 2 bits - 1)).length)
  | _ =>
    let half := Nat.pow 2 (bits - 1)
    let shown := if n < half then digits n else "-" ++ digits (Nat.pow 2 bits - n)
    (shown, (digits half).length + 1)

/-- The numbers of a line of bytes. -/
def numbersOf (size : Nat) (bytes : List Nat) : List Nat :=
  let rec go : Nat → List Nat → List Nat
    | 0, _ => []
    | _, [] => []
    | fuel + 1, bytes =>
      let n := (bytes.take size).reverse.foldl (fun n b => 256 * n + b) 0
      n :: go fuel (bytes.drop size)
  go bytes.length bytes

/-- The forms that a text asks for. The number bounds them. -/
def formsOf : Nat → List Char → Option (List DumpForm)
  | 0, _ => some []
  | _, [] => some []
  | fuel + 1, kind :: rest =>
    if ¬ "acdoux".toList.contains kind then none
    else
      let (size, rest) := match rest with
        | 'C' :: more => (1, more)
        | 'S' :: more => (2, more)
        | 'I' :: more => (4, more)
        | 'L' :: more => (8, more)
        | more =>
          let ds := more.takeWhile Char.isDigit
          (if ds.isEmpty then 4 else Decimal.valueOf ds, more.drop ds.length)
      let (showsText, rest) := match rest with
        | 'z' :: more => (true, more)
        | more => (false, more)
      let size := if kind = 'a' ∨ kind = 'c' then 1 else size
      if size = 0 ∨ 8 < size then none
      else (formsOf fuel rest).map ({ kind, size, showsText } :: ·)

/-- Shows bytes as numbers. -/
def od : Deed Nat := do
  let g ← options <|
    [{ letter := 'A', name := "address-radix", takes := .value },
     { letter := 't', name := "format", takes := .value },
     { letter := 'N', name := "read-bytes", takes := .value },
     { letter := 'j', name := "skip-bytes", takes := .value },
     { letter := 'v', name := "output-duplicates" },
     { letter := 'w', name := "width", takes := .maybe }] ++ flags "abcdiloxsf"
  let usual : List (Char × String) :=
    [('a', "a"), ('b', "o1"), ('c', "c"), ('d', "u2"), ('i', "d4"), ('l', "d8"), ('o', "o2"),
     ('x', "x2"), ('s', "d2")]
  let wanted := g.options.filterMap fun (c, s) =>
    if c = 't' then some s else usual.lookup c
  let forms ← (if wanted.isEmpty then ["o2"] else wanted).mapM fun s => do
    match formsOf s.length s.toList with
    | some forms => return forms
    | none => abort ("invalid type string " ++ quote s)
  let forms := forms.flatten
  let (cs, isDone) ← charsOfAll g.operands fileComplaint
  let number (letter : Char) : Option Nat := (g.value? letter).bind String.toNat?
  let skipped := (number 'j').getD 0
  let all := (cs.map Char.toNat).drop skipped
  let all := match number 'N' with
    | some n => all.take n
    | none => all
  let width := ((g.value? 'w').bind String.toNat?).getD 16
  let rows := rowsOf_ width all.length all
  let place (n : Nat) : String :=
    let inBase (base width : Nat) : String :=
      let ds := Nat.toDigits base n
      String.ofList (List.replicate (width - ds.length) '0' ++ ds)
    match (g.value? 'A').getD "o" with
    | "n" => ""
    | "d" => inBase 10 7
    | "x" => inBase 16 6
    | _ => inBase 8 7
  let cell := forms.foldl (fun n f =>
    max n (((numberInDump f 0).2 + 1 + f.size - 1) / f.size)) 1
  let lineOf (f : DumpForm) (row : List Nat) : String :=
    let texts := (numbersOf f.size row).map fun n =>
      rightAligned (if forms.length = 1 then (numberInDump f n).2 + 1 else cell * f.size)
        (numberInDump f n).1
    let body := String.join texts
    if f.showsText then
      let full := width / f.size * ((numberInDump f 0).2 + 1)
      let chars := row.map fun n => if 32 ≤ n ∧ n < 127 then Char.ofNat n else '.'
      body ++ String.ofList (List.replicate (full - body.length) ' ') ++ "  >" ++
        String.ofList chars ++ "<"
    else body
  let texts := shown place lineOf forms (g.has 'v') skipped none false rows
  let last := if isDone ∨ ¬ cs.isEmpty then place (skipped + all.length) else ""
  put (String.join texts ++ (if last.isEmpty then "" else last ++ "\n"))
  return if isDone then 0 else 1
where
  /-- Rows of some number of bytes. -/
  rowsOf_ (width : Nat) : Nat → List Nat → List (List Nat)
    | 0, _ => []
    | _, [] => []
    | fuel + 1, bytes => bytes.take width :: rowsOf_ width fuel (bytes.drop width)
  /-- The lines for rows. Rows that are like the one before are shown as an asterisk. -/
  shown (place : Nat → String) (lineOf : DumpForm → List Nat → String) (forms : List DumpForm)
      (showsAll : Bool) : Nat → Option (List Nat) → Bool → List (List Nat) → List String
    | _, _, _, [] => []
    | n, last, wasStarred, row :: rest =>
      let next (isStarred : Bool) : List String :=
        shown place lineOf forms showsAll (n + row.length) (some row) isStarred rest
      if last = some row ∧ ¬ showsAll ∧ ¬ rest.isEmpty then
        if wasStarred then next true else "*\n" :: next true
      else
        let lead := place n
        let blank := String.ofList (List.replicate lead.length ' ')
        let lines := (forms.zipIdx).map fun (f, i) =>
          (if i = 0 then lead else blank) ++ lineOf f row ++ "\n"
        String.join lines :: next false

/-! ## Section 2: Bytes as letters -/

/-- The letters that stand for six bits. -/
def sixBitLetters : List Char :=
  "ABCDEFGHIJKLMNOPQRSTUVWXYZabcdefghijklmnopqrstuvwxyz0123456789+/".toList

/-- The letters for bytes. -/
def encodeSixBits : List Nat → List Char
  | a :: b :: c :: rest =>
    let n := 65536 * a + 256 * b + c
    [letter (n / 262144), letter (n / 4096 % 64), letter (n / 64 % 64), letter (n % 64)] ++
      encodeSixBits rest
  | [a, b] =>
    let n := 65536 * a + 256 * b
    [letter (n / 262144), letter (n / 4096 % 64), letter (n / 64 % 64), '=']
  | [a] => [letter (a / 4), letter (a % 4 * 16), '=', '=']
  | [] => []
where
  /-- The letter for six bits. -/
  letter (n : Nat) : Char := (sixBitLetters[n]?).getD '='

/-- The bytes for letters, and whether all letters have a meaning. -/
def decodeSixBits : List Char → List Nat × Bool
  | [] => ([], true)
  | [a, b, '=', '='] =>
    match value? a, value? b with
    | some x, some y => ([(64 * x + y) / 16], true)
    | _, _ => ([], false)
  | [a, b, c, '='] =>
    match value? a, value? b, value? c with
    | some x, some y, some z =>
      let n := (4096 * x + 64 * y + z) / 4
      ([n / 256, n % 256], true)
    | _, _, _ => ([], false)
  | a :: b :: c :: d :: rest =>
    match value? a, value? b, value? c, value? d with
    | some x, some y, some z, some u =>
      let n := 262144 * x + 4096 * y + 64 * z + u
      let (more, isRight) := decodeSixBits rest
      (n / 65536 :: n / 256 % 256 :: n % 256 :: more, isRight)
    | _, _, _, _ => ([], false)
  | _ => ([], false)
where
  /-- The six bits for a letter. -/
  value? (c : Char) : Option Nat := sixBitLetters.findIdx? (· == c)

/-- Writes bytes as letters, or takes that back. -/
def base64 : Deed Nat := do
  let g ← options
    [{ letter := 'd', name := "decode" }, { letter := 'i', name := "ignore-garbage" },
     { letter := 'w', name := "wrap", takes := .value }]
  match g.operands with
  | _ :: second :: _ => misuse ("extra operand " ++ quote second)
  | _ => pure ()
  match ← charsOf (g.operands.head?.getD "-") with
  | .error f =>
    let name := g.operands.head?.getD "-"
    abort (if f = .isDirectory then "read error: " ++ f.message else fileComplaint name f)
  | .ok cs =>
    if g.has 'd' then
      let letters := cs.filter fun c => c != '\n' &&
        (!g.has 'i' || c == '=' || sixBitLetters.contains c)
      let (bytes, isRight) := decodeSixBits letters
      put (String.ofList (bytes.map Char.ofNat))
      if ¬ isRight then abort "invalid input"
      return 0
    else
      let width := ((g.value? 'w').bind String.toNat?).getD 76
      let letters := encodeSixBits (cs.map Char.toNat)
      if width = 0 then put (String.ofList letters)
      else put (textOf (chunks width letters.length letters))
      return 0
where
  /-- Parts of some length. -/
  chunks (width : Nat) : Nat → List Char → List (List Char)
    | 0, _ => []
    | _, [] => []
    | fuel + 1, cs => cs.take width :: chunks width fuel (cs.drop width)

/-! ## Section 3: Blocks -/

/-- The number of bytes that a text with a unit denotes. -/
def byteCount? (s : String) : Option Nat :=
  let ds := s.toList.takeWhile Char.isDigit
  if ds.isEmpty then none
  else
    let n := Decimal.valueOf ds
    match String.ofList (s.toList.drop ds.length) with
    | "" | "c" => some n
    | "w" => some (2 * n)
    | "b" => some (512 * n)
    | "k" | "K" | "KiB" => some (1024 * n)
    | "kB" | "KB" => some (1000 * n)
    | "M" | "MiB" => some (1048576 * n)
    | "MB" => some (1000000 * n)
    | _ => none

/-- Reads at most some number of bytes from a descriptor, as many as there are at once. -/
def readBlocks (number size : Nat) : Nat → List ByteArray → Deed (List ByteArray)
  | 0, got => return got.reverse
  | fuel + 1, got => do
    match ← Work.read number size with
    | .ok bytes => if bytes.isEmpty then return got.reverse else readBlocks number size fuel (bytes :: got)
    | .error _ => return got.reverse

/-- Copies blocks of bytes. -/
def dd : Deed Nat := do
  let args := (← read).args
  let pairs ← args.mapM fun a => do
    let name := String.ofList (a.toList.takeWhile (· ≠ '='))
    let known := ["if", "of", "bs", "ibs", "obs", "count", "skip", "seek", "status", "conv", "iflag",
      "oflag", "cbs"]
    if ¬ a.contains '=' ∨ ¬ known.contains name then misuse ("unrecognized operand " ++ quote a)
    return (name, String.ofList (a.toList.drop (name.length + 1)))
  let value (name : String) : Option String := pairs.reverse.lookup name
  let number (name : String) (usual : Nat) : Deed Nat := do
    match value name with
    | none => return usual
    | some s => match byteCount? s with
      | some n => return n
      | none => abort ("invalid number: " ++ quote s)
  let size ← number "bs" (← number "ibs" 512)
  let count ← number "count" pieceLimit
  let skip ← number "skip" 0
  let source ← match value "if" with
    | none => pure 0
    | some name => match ← Work.openFile name { reads := true } with
      | .ok n => pure n
      | .error f => abort ("failed to open " ++ quoteName name ++ ": " ++ f.message)
  let drain ← match value "of" with
    | none => pure 1
    | some name =>
      let keeps := ((value "conv").getD "").splitOn "," |>.contains "notrunc"
      match ← Work.openFile name { writes := true, makes := true, empties := !keeps } with
      | .ok n => pure n
      | .error f => abort ("failed to open " ++ quoteName name ++ ": " ++ f.message)
  let _ ← readBlocks source size skip []
  let blocks ← readBlocks source size count []
  blocks.forM fun bytes => do
    let _ ← Work.write drain bytes
  let full := blocks.countP (·.size == size)
  let part := blocks.length - full
  let total := (blocks.map ByteArray.size).foldl (· + ·) 0
  let records := digits full ++ "+" ++ digits part ++ " records "
  match value "status" with
  | some "none" => pure ()
  | status =>
    say (records ++ "in\n" ++ records ++ "out\n")
    if status ≠ some "noxfer" then
      say (digits total ++ (if total = 1 then " byte" else " bytes") ++ " copied, 0.0001 s, 10 kB/s\n")
  return 0

end SimSweep.Tool
