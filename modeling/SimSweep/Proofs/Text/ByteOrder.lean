import Mathlib.Algebra.Group.Nat.Defs
import Mathlib.Tactic.SplitIfs
import SimSweep.Text.Utf8

/-! # The order of texts and of their bytes

    Texts are compared character by character, and their bytes byte by byte. Both orders are
    the same: a character of more bytes starts with a greater one, and of two characters
    with as many bytes the smaller one has the smaller byte at the first place where they
    differ, whatever stands behind them.
-/

namespace SimSweep.Utf8

/-! ## Section 1: Bytes of a character -/

/-- How many bytes of a code point follow the first one. -/
def followers (v : Nat) : Nat :=
  if v ≤ 0x7f then 0 else if v ≤ 0x7ff then 1 else if v ≤ 0xffff then 2 else 3

/-- The first byte of a code point. -/
def firstByte (v : Nat) : Nat :=
  if v ≤ 0x7f then v
  else if v ≤ 0x7ff then v / 64 % 32 + 0xc0
  else if v ≤ 0xffff then v / 4096 % 16 + 0xe0
  else v / 262144 % 8 + 0xf0

/-- The last bytes of a code point, with six bits of it each. -/
def lastBytes (v : Nat) : Nat → List UInt8
  | 0 => []
  | k + 1 => UInt8.ofNat (v / 64 ^ k % 64 + 0x80) :: lastBytes v k

theorem encodeChar_eq (c : Char) :
    String.utf8EncodeChar c =
      UInt8.ofNat (firstByte c.toNat) :: lastBytes c.toNat (followers c.toNat) := by
  unfold String.utf8EncodeChar firstByte followers Char.toNat
  simp only
  split_ifs <;> simp [lastBytes]

/-! ## Section 2: The order of characters -/

variable {v w : Nat}

theorem cons_byte_lt {m n : Nat} (h : m < n) (hn : n < 256) (s t : List UInt8) :
    UInt8.ofNat m :: s < UInt8.ofNat n :: t := by
  refine List.cons_lt_cons_iff.mpr (.inl ?_)
  rw [UInt8.lt_iff_toNat_lt, UInt8.toNat_ofNat', UInt8.toNat_ofNat']
  omega

/-- The last bytes of code points that agree in the bits above theirs. Induction on how many
    there are, from the first of them. -/
theorem lastBytes_append_lt {k : Nat} (hlt : v < w) (h : v / 64 ^ k = w / 64 ^ k)
    (s t : List UInt8) : lastBytes v k ++ s < lastBytes w k ++ t := by
  induction k with
  | zero => omega
  | succ k ih =>
    rw [pow_succ, ← Nat.div_div_eq_div_mul, ← Nat.div_div_eq_div_mul] at h
    unfold lastBytes
    rw [List.cons_append, List.cons_append]
    have hle : v / 64 ^ k ≤ w / 64 ^ k := Nat.div_le_div_right (Nat.le_of_lt hlt)
    rcases Nat.lt_or_eq_of_le hle with hdigits | hdigits
    · exact cons_byte_lt (by omega) (by omega) _ _
    · rw [hdigits]
      exact List.cons_lt_cons_iff.mpr (.inr ⟨rfl, ih hdigits⟩)

/-- A greater code point has a greater first byte, or the same one and what its last bytes do
    not tell. -/
theorem firstByte_lt_or_eq (hlt : v < w) (hw : w < 0x110000) :
    firstByte v < firstByte w ∨
      firstByte v = firstByte w ∧ followers v = followers w ∧
        v / 64 ^ followers v = w / 64 ^ followers v := by
  -- code points of fewer bytes are smaller, so this is about each pair of lengths
  unfold firstByte followers
  split_ifs <;> omega

theorem firstByte_lt (hv : v < 0x110000) : firstByte v < 256 := by
  unfold firstByte
  split_ifs <;> omega

theorem encodeChar_append_lt {c d : Char} (h : c < d) (s t : List UInt8) :
    String.utf8EncodeChar c ++ s < String.utf8EncodeChar d ++ t := by
  have hlt : c.toNat < d.toNat := h
  have hd : d.toNat < 0x110000 := by
    have hvalid : d.toNat < 0xd800 ∨ 0xdfff < d.toNat ∧ d.toNat < 0x110000 := d.valid
    omega
  rw [encodeChar_eq, encodeChar_eq, List.cons_append, List.cons_append]
  rcases firstByte_lt_or_eq hlt hd with hfirst | ⟨hfirst, hfollowers, hrest⟩
  · exact cons_byte_lt hfirst (firstByte_lt hd) _ _
  · rw [hfirst, ← hfollowers]
    exact List.cons_lt_cons_iff.mpr (.inr ⟨rfl, lastBytes_append_lt hlt hrest s t⟩)

/-! ## Section 3: The order of texts -/

theorem encode_lt_encode {cs ds : List Char} (h : cs < ds) : encode cs < encode ds := by
  unfold encode
  induction h with
  | nil =>
    rw [List.flatMap_cons, encodeChar_eq]
    exact List.nil_lt_cons _ _
  | rel h =>
    rw [List.flatMap_cons, List.flatMap_cons]
    exact encodeChar_append_lt h _ _
  | cons _ ih =>
    rw [List.flatMap_cons, List.flatMap_cons]
    exact List.append_left_lt ih

/-- A text that is neither before nor behind another one is the same. -/
theorem encode_injective : Function.Injective encode := by
  intro cs ds h
  rcases Std.lt_trichotomy cs ds with hlt | heq | hgt
  · exact absurd (encode_lt_encode hlt) (h ▸ List.lt_irrefl _)
  · exact heq
  · exact absurd (encode_lt_encode hgt) (h ▸ List.lt_irrefl _)

theorem encode_lt_encode_iff {cs ds : List Char} : encode cs < encode ds ↔ cs < ds := by
  refine ⟨fun h => ?_, encode_lt_encode⟩
  rcases Std.lt_trichotomy cs ds with hlt | heq | hgt
  · exact hlt
  · rw [heq] at h
    exact absurd h (List.lt_irrefl _)
  · exact absurd (List.lt_trans h (encode_lt_encode hgt)) (List.lt_irrefl _)

end SimSweep.Utf8
