import SimSweep.Proofs.Json.Members
import SimSweep.Proofs.Serial.Report
import SimSweep.Proofs.Time.Reading
import SimSweep.Serial.Entry

/-! # Entries read back

    An entry is decoded from its own text with the fields that it has, each under its
    key, in whatever order they are written. The values of fields may come back as other
    numbers; everything else comes back as it was.
-/

namespace SimSweep

open Json (Decoder Number Record Value)

/-! ## Section 1: Free fields -/

namespace Json.Value

/-- What the text of a value is read as. -/
def reread (v : Value) : Value :=
  match (v.node Number.reread).value with
  | .ok w => w
  | .error _ => v

theorem value_node_reread (v : Value) : (v.node Number.reread).value = .ok v.reread := by
  obtain ⟨w, hw⟩ := exists_value_node Number.reread v
  unfold reread
  rw [hw]

/-- Each value under its key is read. -/
theorem mapM_memberNodes (members : List (String × Value)) :
    ((memberNodes Number.reread members).mapM fun (key, n) => do
      let k ← Decoding.ofText key
      return (k, ← Decoder.value n)) = .ok (members.map fun m => (m.1, m.2.reread)) := by
  induction members with
  | nil => rfl
  | cons m rest ih =>
    have hvalue : Decoder.value (m.2.node Number.reread) = .ok m.2.reread := by
      unfold Decoder.value
      rw [value_node_reread]
      rfl
    rw [memberNodes, List.mapM_cons, ih]
    simp only [Decoding.ofText, Except.mapError, bind, Except.bind, hvalue]
    rfl

end Json.Value

namespace Log

/-- The fields that are read where some members are written. -/
def Fields.reread (listing : List (String × Value)) : Fields :=
  .ofMembers (listing.map fun m => (m.1, m.2.reread))

namespace Fields

variable {listing : List (String × Value)}

theorem reads {depth : Nat}
    (h : ∀ m ∈ listing, ∀ level, level + depth ≤ Json.depthLimit →
      m.2.FitsAt Number.reread level) :
    Fields.decode.Reads Number.reread (depth + 1) (.object listing) (.reread listing) where
  fitsAt level hlevel := by
    refine ⟨by omega, ?_⟩
    rw [Value.membersFitAt_iff]
    exact fun m hm => h m hm (level + 1) (by omega)
  decode := by
    -- no decoder checks what stands under a key, so every member is taken
    have hmembers := Value.mapM_memberNodes listing
    rw [Value.node]
    unfold Fields.decode Decoder.dictionary
    dsimp only at hmembers ⊢
    rw [hmembers]
    rfl

theorem nodup_keys (fields : Fields) : (fields.members.map Prod.fst).Nodup :=
  fields.sorted.nodup_keys

variable (h : (listing.map Prod.fst).Nodup)

include h

theorem reread_perm :
    (reread listing).members.Perm (listing.map fun m => (m.1, m.2.reread)) := by
  refine Value.sortMembers_perm ?_
  rw [List.map_map]
  exact h

/-- The keys are those that were written, whatever became of their values. -/
theorem keys_reread_perm :
    ((reread listing).members.map Prod.fst).Perm (listing.map Prod.fst) := by
  have hkeys := (reread_perm h).map Prod.fst
  rw [List.map_map] at hkeys
  exact hkeys

/-- A string is found as it was written. -/
theorem lookup_reread_string {key s : String} (hm : (key, .string s) ∈ listing) :
    (reread listing).lookup key = some (.string s) := by
  refine Value.lookup_eq_of_mem (nodup_keys _) ?_
  rw [(reread_perm h).mem_iff]
  exact List.mem_map.mpr ⟨_, hm, rfl⟩

end Fields

/-! ## Section 2: Levels and places -/

theorem Level.reads (l : Level) :
    Level.codec.decode.Reads Number.reread 0 (Level.codec.encode l) l where
  fitsAt _ _ := trivial
  decode := by cases l <;> rfl

/-- A string that may be absent. -/
theorem reads_optionalString (s : Option String) :
    (Decoder.nullable Decoder.string).Reads Number.reread 0 (.ofOption .string s) s := by
  cases s <;> exact ⟨fun _ _ => trivial, rfl⟩

theorem Location.reads (l : Location) :
    Location.codec.decode.Reads Number.reread 1 (Location.codec.encode l) l := by
  have hline := (Decoder.reads_word l.line.toNat_lt (by decide)).map UInt32.ofNat
  rw [UInt32.ofNat_toNat] at hline
  have htakes := (((Record.takes_required "file"
    (Decoder.reads_string l.file)).map Location.mk).seq
    (Record.takes_required "line" hline)).seq
    (Record.takes_nullable "module" (reads_optionalString l.module))
  exact htakes.reads (by simp) true

/-- A place that may be absent. -/
theorem Location.reads_optional (l : Option Location) :
    (Decoder.nullable Location.codec.decode).Reads Number.reread 1
      (.ofOption Location.codec.encode l) l := by
  cases l with
  | none => exact ⟨fun _ _ => trivial, rfl⟩
  | some l => exact ⟨(reads l).fitsAt, ((reads l).map some).decode⟩

/-! ## Section 3: Entries -/

/-- An entry whose fields are listed in some order is read back but for the numbers of the
    listing. -/
theorem Entry.reads {e : Entry} (htime : e.timestamp.IsKnown) {depth : Nat} (hdepth : 1 ≤ depth)
    {listing : List (String × Value)}
    (hfields : ∀ m ∈ listing, ∀ level, level + depth ≤ Json.depthLimit →
      m.2.FitsAt Number.reread level) :
    Entry.codec.decode.Reads Number.reread (depth + 2) (e.encodeListing listing)
      { e with fields := .reread listing } := by
  have hzero : 0 ≤ depth + 1 := Nat.zero_le _
  have htakes := (((((Record.takes_required "timestamp"
    ((Timestamp.reads (Timestamp.read?_text htime)).mono hzero)).map Entry.mk).seq
    (Record.takes_required "level" ((Level.reads e.level).mono hzero))).seq
    (Record.takes_required "message" ((Decoder.reads_string e.message).mono hzero))).seq
    (Record.takes_required "logger" ((Decoder.reads_string e.logger).mono hzero))).seq
    (Record.takes_required "fields" (Fields.reads hfields))
  have hall := htakes.seq (Record.takes_nullable "location"
    ((Location.reads_optional e.location).mono (show 1 ≤ depth + 1 by omega)))
  exact hall.reads (by simp) true

end Log

end SimSweep
