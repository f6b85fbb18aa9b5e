import SimSweep.Proofs.Json.Compact
import SimSweep.Proofs.Serial.Entry

/-! # The log as JSON lines

    What is written as JSON stands on one line for each remark, which is decoded as the
    entry of that remark: its level, message, logger and place, and under their keys the
    fields that its notes and the session set. The order in which the fields stand in the
    line does not matter, nor what their values are.
-/

namespace SimSweep.Log

open Json (Decoder Number Value isLow)

/-! ## Section 1: What is logged -/

/-- The kinds of values that are logged: whole numbers of 64 bits, numbers that need be
    neither whole nor finite, strings, lists of numbers, and endings. -/
inductive IsLogged : Value → Prop where
  | whole (i : Int) (lo : -Nat.pow 2 63 ≤ i) (hi : i ≤ Json.wordLimit) : IsLogged (.ofInt i)
  | number (x : Binary64) : IsLogged (.ofBinary64 x)
  | string (s : String) : IsLogged (.string s)
  | numbers (xs : List Binary64) : IsLogged (.ofNumbers xs)
  | ending (e : Ending) : IsLogged (Ending.codec.encode e)

/-- A note with a value, if it has one, of such a kind. -/
def Note.HasLogged : Note → Prop
  | .field _ (some value) => IsLogged value
  | _ => True

theorem IsLogged.fitsAt {v : Value} (h : IsLogged v) {level : Nat}
    (hlevel : level + 1 ≤ Json.depthLimit) : v.FitsAt Number.reread level := by
  cases h with
  | whole i lo hi => exact Value.ofInt_fitsAt lo hi level
  | number x => exact Value.ofBinary64_fitsAt x level
  | string s => trivial
  | numbers xs =>
    refine ⟨hlevel, ?_⟩
    rw [Value.itemsFitAt_iff, List.forall_mem_map]
    exact fun x _ => Value.ofBinary64_fitsAt x (level + 1)
  | ending e => exact (Ending.reads e).fitsAt level hlevel

theorem isLogged_ofNat {n : Nat} (h : n ≤ Json.wordLimit) : IsLogged (.ofNat n) := by
  have hlogged := IsLogged.whole (n : Int) (by omega) (by omega)
  rw [Value.ofInt_natCast] at hlogged
  exact hlogged

/-- Every field that such a note sets has a value of these kinds. -/
theorem Note.HasLogged.fields {note : Note} (h : note.HasLogged) :
    ∀ m ∈ note.fields, IsLogged m.2 := by
  have hint : ∀ i : Int64, IsLogged (.ofInt i.toInt) := by
    intro i
    have hlo := Int64.le_toInt i
    have hhi := Int64.toInt_lt i
    exact .whole i.toInt (by norm_num; omega) (by unfold Json.wordLimit; norm_num; omega)
  cases note with
  | field key value =>
    cases value with
    | none => simp [Note.fields]
    | some value =>
      intro m hm
      rw [List.mem_singleton.mp hm]
      exact h
  | point p =>
    simp only [Note.fields, pointFields, List.forall_mem_cons]
    exact ⟨.number p.rate, .number p.distance, hint p.run, hint p.seed, by simp⟩
  | failure f =>
    have hcode : f.exitCode ≤ Json.wordLimit := by
      cases f <;> exact Nat.le_of_ble_eq_true rfl
    simp only [Note.fields, failureFields, List.forall_mem_cons]
    exact ⟨.string f.category, isLogged_ofNat hcode, by simp⟩
  | location place => simp [Note.fields]

/-! ## Section 2: What is gathered in an entry -/

/-- Sets fields in order. -/
def Fields.setAll (fields : Fields) (added : List (String × Value)) : Fields :=
  added.foldl (fun fields (key, value) => fields.set key value) fields

/-- Notes change the fields and the place and nothing else. -/
theorem foldl_add_eq (notes : List Note) (e : Entry) :
    notes.foldl Entry.add e =
      { e with
        fields := e.fields.setAll (notes.flatMap Note.fields)
        location := (notes.filterMap Note.location?).getLast?.or e.location } := by
  induction notes generalizing e with
  | nil => rfl
  | cons note rest ih =>
    have hlocation : ∀ others : List Location,
        (note.location?.toList ++ others).getLast?.or e.location =
          others.getLast?.or (note.location?.or e.location) := by
      intro others
      cases note.location? with
      | none => rfl
      | some place => cases others <;> simp [List.getLast?_cons]
    have hfilter : (note :: rest).filterMap Note.location? =
        note.location?.toList ++ rest.filterMap Note.location? := by
      rw [List.filterMap_cons]
      cases note.location? <;> rfl
    rw [List.foldl_cons, ih, hfilter, hlocation, List.flatMap_cons]
    simp only [Entry.add, Fields.setAll, List.foldl_append]

namespace Logger

variable (logger : Logger)

/-- The fields that a logger sets for a remark, in order: those of the notes, and at the
    end its session. -/
def added (r : Remark) : List (String × Value) :=
  r.notes.flatMap Note.fields ++
    (logger.session.map fun session => ("session_id", Value.string session)).toList

theorem entry_eq (r : Remark) (time : Timestamp) :
    logger.entry r time =
      { timestamp := time, level := r.level, message := r.message, logger := logger.name
        fields := Fields.setAll {} (logger.added r)
        location := (r.notes.filterMap Note.location?).getLast? } := by
  unfold entry inscribe added Remark.entry
  rw [foldl_add_eq]
  cases logger.session with
  | none => simp
  | some session => simp [Fields.setAll]

end Logger

/-- Fields under the keys of those that were added, in a form in which they are read. -/
structure Gathers (added : List (String × Value)) (fields : Fields) : Prop where
  mem_keys : ∀ key, key ∈ fields.members.map Prod.fst ↔ key ∈ added.map Prod.fst
  fitsAt : ∀ m ∈ fields.members, ∀ level, level + 1 ≤ Json.depthLimit →
    m.2.FitsAt Number.reread level

namespace Gathers

variable {added : List (String × Value)} {fields : Fields}

theorem nil : Gathers [] {} := ⟨by simp, by simp⟩

/-- One more field is added, or takes the place of one with its key. -/
theorem set (h : Gathers added fields) (key : String) {v : Value} (hv : IsLogged v) :
    Gathers (added ++ [(key, v)]) (fields.set key v) where
  mem_keys k := by
    unfold Fields.set
    rw [Value.mem_keys_setMember, h.mem_keys, List.map_append, List.mem_append, or_comm]
    simp
  fitsAt m hm level hlevel := by
    rcases Value.mem_setMember hm with rfl | hm
    · exact Value.FitsAt.canonical v (hv.fitsAt hlevel)
    · exact h.fitsAt m hm level hlevel

theorem setAll (h : Gathers added fields) {more : List (String × Value)}
    (hmore : ∀ m ∈ more, IsLogged m.2) : Gathers (added ++ more) (fields.setAll more) := by
  induction more generalizing added fields with
  | nil => rwa [List.append_nil]
  | cons m more ih =>
    rw [List.forall_mem_cons] at hmore
    have hrest := ih (h.set m.1 hmore.1) hmore.2
    rw [List.append_assoc] at hrest
    exact hrest

/-- The fields may be written in any order. -/
theorem reads {e : Entry} (h : Gathers added e.fields) (htime : e.timestamp.IsKnown)
    {listing : List (String × Value)} (hperm : listing.Perm e.fields.members) :
    Entry.codec.decode.Reads Number.reread 3 (e.encodeListing listing)
      { e with fields := .reread listing } :=
  Entry.reads htime (Nat.le_refl 1) fun m hm => h.fitsAt m (hperm.mem_iff.mp hm)

end Gathers

theorem Logger.gathers_entry (logger : Logger) {r : Remark} (h : ∀ note ∈ r.notes, note.HasLogged)
    (time : Timestamp) : Gathers (logger.added r) (logger.entry r time).fields := by
  have hadded : ∀ m ∈ logger.added r, IsLogged m.2 := by
    unfold Logger.added
    rw [List.forall_mem_append]
    constructor
    · intro m hm
      obtain ⟨note, hnote, hm⟩ := List.mem_flatMap.mp hm
      exact (h note hnote).fields m hm
    · intro m hm
      obtain ⟨session, _, rfl⟩ := Option.mem_map.mp (Option.mem_toList.mp hm)
      exact .string session
  rw [logger.entry_eq]
  exact Gathers.nil.setAll hadded

/-! ## Section 3: One line -/

/-- An entry is that of a remark made at some time, but for the values of its fields. The
    session is told in any case. -/
structure Recounts (logger : Logger) (time : Timestamp) (r : Remark) (e : Entry) : Prop where
  timestamp : e.timestamp = time
  level : e.level = r.level
  message : e.message = r.message
  name : e.logger = logger.name
  location : e.location = (r.notes.filterMap Note.location?).getLast?
  nodup_keys : (e.fields.members.map Prod.fst).Nodup
  mem_keys : ∀ key, key ∈ e.fields.members.map Prod.fst ↔
    (∃ note ∈ r.notes, key ∈ note.fields.map Prod.fst) ∨
      key = "session_id" ∧ logger.session.isSome
  lookup_session : ∀ session ∈ logger.session,
    e.fields.lookup "session_id" = some (.string session)

/-- A line without control characters below the blank that is decoded as such an entry. -/
structure Tells (logger : Logger) (time : Timestamp) (r : Remark) (line : List Char) : Prop where
  noneLow : ∀ c ∈ line, ¬ isLow c
  parse : ∃ e, Entry.codec.parse line = .ok e ∧ Recounts logger time r e

namespace Logger

variable {logger : Logger} {r : Remark}

theorem mem_keys_added {key : String} :
    key ∈ (logger.added r).map Prod.fst ↔
      (∃ note ∈ r.notes, key ∈ note.fields.map Prod.fst) ∨
        key = "session_id" ∧ logger.session.isSome := by
  unfold added
  rw [List.map_append, List.mem_append, List.map_flatMap, List.mem_flatMap]
  refine or_congr_right ?_
  cases logger.session <;> simp

/-- The session stands in the entry, whatever the notes have set under its key. -/
theorem mem_entry_session {session : String} (h : session ∈ logger.session) (time : Timestamp) :
    ("session_id", Value.string session) ∈ (logger.entry r time).fields.members := by
  have hsession : logger.session = some session := h
  -- it is set last
  refine Value.mem_of_lookup_eq ?_
  unfold entry inscribe
  rw [hsession]
  exact Fields.lookup_set_self ..

/-- The entry of a remark can be written as JSON and is told by its line, in whatever order
    its fields are listed. -/
theorem exists_line (h : ∀ note ∈ r.notes, note.HasLogged) {time : Timestamp}
    (htime : time.IsKnown) {listing : List (String × Value)}
    (hperm : listing.Perm (logger.entry r time).fields.members) :
    ∃ line, ((logger.entry r time).encodeListing listing).render .compact = .ok line ∧
      Tells logger time r line := by
  have hgathers := logger.gathers_entry h time
  have heq := logger.entry_eq r time
  have hkeys := hperm.map Prod.fst
  have hnodup := hkeys.nodup_iff.mpr (Fields.nodup_keys _)
  have hread := Fields.keys_reread_perm hnodup
  have hentry := hgathers.reads (by rw [heq]; exact htime) hperm
  have hrender := (hentry.fitsAt 0 (by decide)).render_eq .compact
  refine ⟨_, hrender, Value.noneLow_compact _, _,
    hentry.parse (by decide) Json.Layout.compact_isBlank, ?_⟩
  exact {
    timestamp := by rw [heq]
    level := by rw [heq]
    message := by rw [heq]
    name := by rw [heq]
    location := by rw [heq]
    nodup_keys := Fields.nodup_keys _
    mem_keys := fun key => by
      rw [hread.mem_iff, hkeys.mem_iff, hgathers.mem_keys, mem_keys_added]
    lookup_session := fun session hsession =>
      Fields.lookup_reread_string hnodup (hperm.mem_iff.mpr (mem_entry_session hsession time)) }

/-! ## Section 4: The whole log -/

variable (logger) (emits : Bool)

/-- A text that a logger may write for a remark: nothing if its level is too low, else the
    line of its entry with the fields listed in some order. -/
def MayWrite (time : Timestamp) (r : Remark) (text : List Char) : Prop :=
  if logger.admits r.level then
    ∃ listing : List (String × Value), listing.Perm (logger.entry r time).fields.members ∧
      text = logger.lineOver emits (logger.entry r time) listing ++ ['\n']
  else text = []

theorem mayWrite_write (time : Timestamp) (r : Remark) :
    logger.MayWrite emits time r (logger.write emits time r) := by
  unfold MayWrite write
  split
  · exact ⟨_, .refl _, rfl⟩
  · rfl

/-- One remark makes one line if its level is admitted, and otherwise nothing. -/
theorem MayWrite.json (hjson : logger.writesJson = true) {time : Timestamp} (htime : time.IsKnown)
    {r : Remark} (hlogged : ∀ note ∈ r.notes, note.HasLogged) {text : List Char}
    (h : logger.MayWrite emits time r text) :
    logger.admits r.level = true ∧ (∃ line, text = line ++ ['\n'] ∧ Tells logger time r line) ∨
      ¬ logger.admits r.level = true ∧ text = [] := by
  unfold MayWrite at h
  split_ifs at h with hadmits
  · obtain ⟨listing, hperm, rfl⟩ := h
    obtain ⟨line, hline, htells⟩ := exists_line hlogged htime hperm
    refine .inl ⟨hadmits, line, ?_, htells⟩
    unfold lineOver
    rw [if_pos hjson, hline]
  · exact .inr ⟨hadmits, h⟩

/-- For each remark at or above its level a logger that writes JSON writes one line that
    tells it, and for no other remark anything. -/
theorem json_lines (hjson : logger.writesJson = true) (said : List (Timestamp × Remark))
    (htimes : ∀ s ∈ said, s.1.IsKnown)
    (hlogged : ∀ s ∈ said, ∀ note ∈ s.2.notes, note.HasLogged) :
    List.Forall₂ (fun s text => logger.MayWrite emits s.1 s.2 text) said
        (said.map fun s => logger.write emits s.1 s.2) ∧
      ∀ texts, List.Forall₂ (fun s text => logger.MayWrite emits s.1 s.2 text) said texts →
        ∃ lines, texts.flatten = lines.flatMap (fun line => line ++ ['\n']) ∧
          List.Forall₂ (fun s line => Tells logger s.1 s.2 line)
            (said.filter fun s => logger.admits s.2.level) lines := by
  constructor
  · rw [List.forall₂_map_right_iff, List.forall₂_same]
    exact fun s _ => logger.mayWrite_write emits s.1 s.2
  · intro texts htexts
    -- one remark after the other, with the lines of those behind it
    induction htexts with
    | nil => exact ⟨[], rfl, .nil⟩
    | @cons s text said texts hs _ ih =>
      rw [List.forall_mem_cons] at htimes hlogged
      obtain ⟨lines, hlines, htells⟩ := ih htimes.2 hlogged.2
      rw [List.flatten_cons, hlines, List.filter_cons]
      rcases hs.json logger emits hjson htimes.1 hlogged.1 with
        ⟨hadmits, line, rfl, hline⟩ | ⟨hadmits, rfl⟩
      · rw [if_pos hadmits]
        exact ⟨line :: lines, by rw [List.flatMap_cons], .cons hline htells⟩
      · rw [if_neg hadmits]
        exact ⟨lines, rfl, htells⟩

/-- A logger whose name and session need escapes. -/
def unruly : Logger where
  name := "A \"log\"\n"
  threshold := .info
  colors := true
  showsLocation := false
  writesJson := true
  session := some "s\x1b1"

/-- A remark on several lines that sets fields of every kind, also that of the session. -/
def unrulyRemark : Remark where
  level := .warn
  message := "two\r\nlines\x00\x7f"
  notes :=
    [.value "session_id" (.string "another"), .point ⟨.nan, .infinite true, Int64.minValue⟩,
     .failure (.internal "lost"), .location ⟨"a\tb", 7, none⟩,
     .value "state" (Ending.codec.encode (.notStarted "no\nshell")),
     .value "rates" (.ofNumbers [.infinite false, .zero true])]

theorem json_lines_unruly :
    let time : Timestamp := { seconds := 1704164645, nanos := 120000000 }
    let said := [(time, unrulyRemark), (time, { level := .debug, message := "low" })]
    (∀ s ∈ said, s.1.IsKnown) ∧ (∀ s ∈ said, ∀ note ∈ s.2.notes, note.HasLogged) ∧
      ∃ line, unruly.write true time unrulyRemark = line ++ ['\n'] ∧
        Tells unruly time unrulyRemark line := by
  intro time said
  have hknown : time.IsKnown := ⟨by decide +kernel, by decide⟩
  have htimes : ∀ s ∈ said, s.1.IsKnown := by
    simp only [said, List.forall_mem_cons]
    exact ⟨hknown, hknown, by simp⟩
  have hlogged : ∀ s ∈ said, ∀ note ∈ s.2.notes, note.HasLogged := by
    simp only [said, unrulyRemark, List.forall_mem_cons]
    exact ⟨⟨.string _, trivial, trivial, trivial, .ending _, .numbers _, by simp⟩, by simp, by simp⟩
  refine ⟨htimes, hlogged, ?_⟩
  obtain ⟨hwrites, hlines⟩ := unruly.json_lines true rfl said htimes hlogged
  obtain ⟨lines, hflatten, htells⟩ := hlines _ hwrites
  -- the second remark is below the level, so there is one line
  have hfilter : said.filter (fun s => unruly.admits s.2.level) = [(time, unrulyRemark)] := rfl
  rw [hfilter] at htells
  obtain ⟨line, rest, hline, hrest, rfl⟩ := List.forall₂_cons_left_iff.mp htells
  obtain rfl := List.forall₂_nil_left_iff.mp hrest
  exact ⟨line, by simpa [said, write, admits, Level.rank, unruly] using hflatten, hline⟩

/-- Control characters above the tilde are not escaped: a message may bring them into its
    line. -/
theorem json_line_delete :
    let time : Timestamp := { seconds := 1704164645, nanos := 0 }
    ∃ line, unruly.write true time { level := .warn, message := "a\x7fb" } = line ++ ['\n'] ∧
      ∃ c ∈ line, isControl c := by
  exact ⟨_, rfl, '\x7f', by decide +kernel, by decide⟩

end Logger

end SimSweep.Log
