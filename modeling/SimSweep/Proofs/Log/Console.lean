import SimSweep.Proofs.Log.Lines
import SimSweep.Proofs.Terminal.Dressing
import SimSweep.Proofs.Text.ByteOrder

/-! # Lines on the console

    A line on the console does not depend on the order in which fields are set or kept: under
    each key it shows the last value, with the keys in increasing order of their bytes, and
    of the places at most the last. Main statement: `console_lines`.

    Notes are applied in order, and each puts its values in front of those that were there
    (`lookup_setAll`), so an entry keeps the last value under each key, and at the end the
    session of the logger. Listings of the same values under all keys are the same once they
    are sorted (`Holds.mergeSort_eq`), so the line is that of the last values.
-/

namespace SimSweep.Log

open Json (Value)

/-! ## Section 1: The last values -/

/-- The value that a note sets under a key, in the form in which it is kept. -/
def Note.value? (note : Note) (key : String) : Option Value :=
  (note.fields.lookup key).map Value.canonical

/-- The last value that is set under a key. -/
def Remark.value? (r : Remark) (key : String) : Option Value :=
  (r.notes.filterMap fun note => note.value? key).getLast?

/-- The last place that is given. -/
def Remark.place? (r : Remark) : Option Location := (r.notes.filterMap Note.location?).getLast?

/-- The value that a logger shows under a key: its session before anything else, otherwise
    the last that is set. -/
def Logger.value? (logger : Logger) (r : Remark) (key : String) : Option Value :=
  if key = "session_id" then (logger.session.map Value.string).or (r.value? key)
  else r.value? key

theorem Note.nodup_keys (note : Note) : (note.fields.map Prod.fst).Nodup := by
  cases note with
  | field key value => cases value <;> simp [Note.fields]
  | point p =>
    show ["data_rate", "distance", "run", "seed"].Nodup
    decide
  | failure f =>
    show ["error_category", "error_exit_code"].Nodup
    decide
  | location place => exact List.nodup_nil

namespace Fields

variable (fields : Fields) (key : String)

theorem lookup_setAll {added : List (String × Value)} (h : (added.map Prod.fst).Nodup) :
    (fields.setAll added).lookup key =
      ((added.lookup key).map Value.canonical).or (fields.lookup key) := by
  induction added generalizing fields with
  | nil => rfl
  | cons m rest ih =>
    rw [List.map_cons, List.nodup_cons] at h
    have hstep : fields.setAll (m :: rest) = (fields.set m.1 m.2).setAll rest := rfl
    rw [hstep, ih _ h.2, List.lookup_cons]
    by_cases heq : key = m.1
    · -- a key that comes once is not set again
      have hnone : rest.lookup key = none := by
        rw [List.lookup_eq_none_iff]
        intro m' hm'
        rw [bne_iff_ne, heq]
        intro hsame
        exact h.1 (hsame ▸ List.mem_map_of_mem hm')
      rw [hnone, heq, lookup_set_self, beq_self_eq_true]
      rfl
    · rw [lookup_set_of_ne _ heq, beq_eq_false_iff_ne.mpr heq]

/-- Notes in order: the last one that sets a value under a key decides on it. -/
theorem lookup_setAll_notes (notes : List Note) :
    (fields.setAll (notes.flatMap Note.fields)).lookup key =
      (notes.filterMap fun note => note.value? key).getLast?.or (fields.lookup key) := by
  -- from the end, as the last note is applied to what the others have left
  induction notes using List.reverseRecOn with
  | nil => rfl
  | append_singleton rest note ih =>
    have hstep : fields.setAll ((rest ++ [note]).flatMap Note.fields) =
        (fields.setAll (rest.flatMap Note.fields)).setAll note.fields := by
      simp [setAll]
    have hlast : ((rest ++ [note]).filterMap fun note => note.value? key).getLast? =
        (note.value? key).or (rest.filterMap fun note => note.value? key).getLast? := by
      rw [List.filterMap_append, List.getLast?_append]
      cases hvalue : note.value? key <;> simp [hvalue]
    rw [hstep, lookup_setAll _ _ note.nodup_keys, ih, hlast, Option.or_assoc]
    rfl

end Fields

/-- An entry keeps the last values. -/
theorem Logger.lookup_entry (logger : Logger) (r : Remark) (time : Timestamp) (key : String) :
    (logger.entry r time).fields.lookup key = logger.value? r key := by
  have hnotes : (r.entry time logger.name).fields.lookup key = r.value? key := by
    unfold Remark.entry Remark.value?
    rw [foldl_add_eq]
    exact (Fields.lookup_setAll_notes {} key r.notes).trans Option.or_none
  unfold Logger.value?
  by_cases hkey : key = "session_id"
  · rw [if_pos hkey]
    unfold entry inscribe
    cases logger.session with
    | none => exact hnotes
    | some session =>
      -- it is set when all notes have been applied
      rw [hkey]
      exact Fields.lookup_set_self ..
  · rw [if_neg hkey, ← hnotes]
    exact logger.lookup_inscribe hkey _

/-! ## Section 2: Fields in any order -/

/-- What a map without an order holds at the end: each key once, with its value. -/
structure Logger.Holds (logger : Logger) (r : Remark) (held : List (String × Value)) : Prop where
  nodup_keys : (held.map Prod.fst).Nodup
  mem_iff : ∀ key v, (key, v) ∈ held ↔ logger.value? r key = some v

section

open Logger (byteOrder)

theorem byteOrder_trans (m m' m'' : String × Value) (h : byteOrder m m') (h' : byteOrder m' m'') :
    byteOrder m m'' :=
  decide_eq_true (List.le_trans (of_decide_eq_true h) (of_decide_eq_true h'))

theorem byteOrder_total (m m' : String × Value) : byteOrder m m' || byteOrder m' m := by
  unfold byteOrder
  rw [Bool.or_eq_true, decide_eq_true_eq, decide_eq_true_eq]
  exact List.le_total _ _

/-- The same bytes make up the same key. -/
theorem key_eq_of_byteOrder {m m' : String × Value} (h : byteOrder m m') (h' : byteOrder m' m) :
    m.1 = m'.1 := by
  have hbytes : Utf8.encode m.1.toList = Utf8.encode m'.1.toList :=
    List.le_antisymm (of_decide_eq_true h) (of_decide_eq_true h')
  exact String.toList_inj.mp (Utf8.encode_injective hbytes)

end

theorem Logger.holds_entry (logger : Logger) (r : Remark) (time : Timestamp) :
    logger.Holds r (logger.entry r time).fields.members where
  nodup_keys := Fields.nodup_keys _
  mem_iff key v := by
    rw [← logger.lookup_entry r time]
    exact ⟨Value.lookup_eq_of_mem (Fields.nodup_keys _), Value.mem_of_lookup_eq⟩

/-- In increasing order of the bytes of their keys. -/
theorem Fields.increasing (fields : Fields) :
    fields.members.Pairwise fun m m' => Utf8.encode m.1.toList < Utf8.encode m'.1.toList :=
  fields.sorted.imp Utf8.encode_lt_encode_iff.mpr

namespace Logger.Holds

variable {logger : Logger} {r : Remark} {held held' : List (String × Value)}

theorem congr {r' : Remark} (h : logger.Holds r held)
    (hvalues : ∀ key, logger.value? r key = logger.value? r' key) : logger.Holds r' held where
  nodup_keys := h.nodup_keys
  mem_iff key v := by rw [h.mem_iff, hvalues]

theorem perm (h : logger.Holds r held) (h' : logger.Holds r held') : held.Perm held' := by
  refine (List.perm_ext_iff_of_nodup h.nodup_keys.of_map h'.nodup_keys.of_map).mpr ?_
  rintro ⟨key, v⟩
  rw [h.mem_iff, h'.mem_iff]

/-- However the fields are listed, they are the same once they are sorted. -/
theorem mergeSort_eq (h : logger.Holds r held) (h' : logger.Holds r held')
    (hincreasing : held'.Pairwise fun m m' =>
      Utf8.encode m.1.toList < Utf8.encode m'.1.toList) :
    held.mergeSort byteOrder = held' := by
  have hperm : (held.mergeSort byteOrder).Perm held' :=
    (List.mergeSort_perm held byteOrder).trans (h.perm h')
  have hsorted : (held.mergeSort byteOrder).Pairwise fun m m' => byteOrder m m' :=
    List.pairwise_mergeSort byteOrder_trans byteOrder_total held
  have hsorted' : held'.Pairwise fun m m' => byteOrder m m' :=
    hincreasing.imp fun hlt => decide_eq_true (List.le_of_lt hlt)
  refine hperm.eq_of_pairwise ?_ hsorted hsorted'
  rintro ⟨key, v⟩ ⟨key', v'⟩ hm hm' hle hge
  -- one key, and of it there is one value
  have hkey : key = key' := key_eq_of_byteOrder hle hge
  have hv := (h.mem_iff key v).mp (List.mem_mergeSort.mp hm)
  rw [hkey, (h'.mem_iff key' v').mp hm'] at hv
  rw [hkey, Option.some.inj hv]

theorem eq_nil_iff (h : logger.Holds r held) :
    held = [] ↔ ∀ key, logger.value? r key = none := by
  rw [List.eq_nil_iff_forall_not_mem]
  constructor
  · intro hnone key
    rw [Option.eq_none_iff_forall_ne_some]
    exact fun v hv => hnone (key, v) ((h.mem_iff key v).mpr hv)
  · rintro hnone ⟨key, v⟩ hm
    cases (hnone key).symm.trans ((h.mem_iff key v).mp hm)

end Logger.Holds

/-! ## Section 3: The line -/

/-- The start of a line: the time, the level, the logger and the message. -/
def Logger.headText (logger : Logger) (emits : Bool) (time : Timestamp) (level : Level)
    (message : String) : List Char :=
  time.clockMillis ++ [' '] ++ (logger.tagText level).paint emits ++
    (" [".toList ++ logger.name.toList ++ "] ".toList ++ message.toList)

/-- The end of a line with a place, if there is one. -/
def placeText : Option Location → List Char
  | some l => " @ ".toList ++ l.file.toList ++ ':' :: Decimal.digitsOf l.line.toNat
  | none => []

namespace Logger

/-- The braces hold the listing sorted. -/
theorem fieldsText_eq {listing sorted : List (String × Value)}
    (h : listing.mergeSort byteOrder = sorted) :
    fieldsText listing =
      if sorted.isEmpty then []
      else " \x7b".toList ++ joinWith ", ".toList (sorted.map fun m =>
        m.1.toList ++ '=' :: m.2.compact) ++ ['\x7d'] := by
  have hempty : listing.isEmpty = sorted.isEmpty := by
    rw [← h, Bool.eq_iff_iff, List.isEmpty_iff, List.isEmpty_iff]
    exact ⟨fun hnil => by rw [hnil, List.mergeSort_nil],
      fun hnil => List.nil_perm.mp (hnil ▸ (List.mergeSort_perm listing byteOrder))⟩
  unfold fieldsText
  rw [hempty, h]
  rfl

/-- The fields of an entry are sorted already. -/
@[simp] theorem mergeSort_members (fields : Fields) :
    fields.members.mergeSort byteOrder = fields.members :=
  List.mergeSort_of_pairwise (fields.increasing.imp fun hlt => decide_eq_true (List.le_of_lt hlt))

variable (logger : Logger) (emits : Bool)

/-- A console line is put together from parts that depend on different things. -/
theorem lineOver_entry (hconsole : logger.writesJson = false) (r : Remark) (time : Timestamp)
    (listing : List (String × Value)) :
    logger.lineOver emits (logger.entry r time) listing =
      logger.headText emits time r.level r.message ++ fieldsText listing ++
        if logger.showsLocation then placeText r.place? else [] := by
  have hlocation : logger.locationText (logger.entry r time) =
      if logger.showsLocation then placeText r.place? else [] := by
    rw [logger.entry_eq]
    unfold locationText placeText Remark.place?
    cases logger.showsLocation with
    | false => rfl
    | true => cases (r.notes.filterMap Note.location?).getLast? <;> rfl
  obtain ⟨hlevel, hmessage⟩ := logger.entry_level_message r time
  have hentry : (logger.entry r time).timestamp = time ∧
      (logger.entry r time).logger = logger.name := by
    rw [logger.entry_eq]
    exact ⟨rfl, rfl⟩
  unfold lineOver consoleText headText StyledText.paint
  rw [hconsole, if_neg (by decide), hlocation, hlevel, hmessage, hentry.1, hentry.2]
  -- nothing but the level has a color
  simp only [List.flatMap_append, List.flatMap_singleton, Terminal.paint_plain, List.append_assoc]

/-- The same last values make the same line, however they are listed. -/
theorem lineOver_congr (hconsole : logger.writesJson = false) {r r' : Remark}
    (hlevel : r.level = r'.level) (hmessage : r.message = r'.message)
    (hvalues : ∀ key, logger.value? r key = logger.value? r' key)
    (hplace : logger.showsLocation = true → r.place? = r'.place?) (time : Timestamp)
    {held held' : List (String × Value)} (h : logger.Holds r held) (h' : logger.Holds r' held') :
    logger.lineOver emits (logger.entry r time) held =
      logger.lineOver emits (logger.entry r' time) held' := by
  have hshown : (if logger.showsLocation then placeText r.place? else []) =
      if logger.showsLocation then placeText r'.place? else [] := by
    split
    · next hdebug => rw [hplace hdebug]
    · rfl
  have hentry := logger.holds_entry r' time
  have hincreasing := Fields.increasing (logger.entry r' time).fields
  have hsorted := (h.congr hvalues).mergeSort_eq hentry hincreasing
  have hsorted' := h'.mergeSort_eq hentry hincreasing
  rw [lineOver_entry logger emits hconsole, lineOver_entry logger emits hconsole, hlevel, hmessage,
    hshown, fieldsText_eq hsorted, fieldsText_eq hsorted']

end Logger

/-- The fields of a console line stand in increasing order of the bytes of their keys, each
    key once with its last value, in whatever order they are held. So lines of the same last
    values are the same, and the last place matters only if places are shown. -/
theorem Logger.console_lines (name : String) (session : Option String) {s : Settings}
    (hconsole : s.jsonReport = false) (emits : Bool) (time : Timestamp) :
    let logger : Logger := { Logger.ofSettings name s with session }
    (∀ r : Remark, ∃ fields : List (String × Value),
      let line := logger.headText emits time r.level r.message ++
        (if fields.isEmpty then []
          else " \x7b".toList ++ joinWith ", ".toList (fields.map fun m =>
            m.1.toList ++ '=' :: m.2.compact) ++ ['\x7d']) ++
        (if s.debug then placeText r.place? else [])
      logger.lineText emits (logger.entry r time) = line ∧
      (fields = [] ↔ ∀ key, logger.value? r key = none) ∧
      logger.Holds r fields ∧
      (fields.Pairwise fun m m' => Utf8.encode m.1.toList < Utf8.encode m'.1.toList) ∧
      ∀ held, logger.Holds r held → held.mergeSort byteOrder = fields ∧
        logger.lineOver emits (logger.entry r time) held = line) ∧
    ∀ r r' : Remark, r.level = r'.level → r.message = r'.message →
      (∀ key, logger.value? r key = logger.value? r' key) →
      (s.debug = true → r.place? = r'.place?) →
      logger.lineText emits (logger.entry r time) = logger.lineText emits (logger.entry r' time) ∧
        logger.write emits time r = logger.write emits time r' ∧
        ∀ held held', logger.Holds r held → logger.Holds r' held' →
          logger.lineOver emits (logger.entry r time) held =
            logger.lineOver emits (logger.entry r' time) held' := by
  intro logger
  constructor
  · intro r
    have hholds := logger.holds_entry r time
    have hincreasing := Fields.increasing (logger.entry r time).fields
    have hsorted := fun held (hheld : logger.Holds r held) => hheld.mergeSort_eq hholds hincreasing
    have hline := fun held (hheld : logger.Holds r held) =>
      (logger.lineOver_entry emits hconsole r time held).trans
        (by rw [fieldsText_eq (hsorted held hheld)])
    exact ⟨(logger.entry r time).fields.members, hline _ hholds, hholds.eq_nil_iff, hholds,
      hincreasing, fun held hheld => ⟨hsorted held hheld, hline held hheld⟩⟩
  · intro r r' hlevel hmessage hvalues hplace
    have hlines : ∀ held held', logger.Holds r held → logger.Holds r' held' →
        logger.lineOver emits (logger.entry r time) held =
          logger.lineOver emits (logger.entry r' time) held' := fun _ _ =>
      logger.lineOver_congr emits hconsole hlevel hmessage hvalues hplace time
    have hline : logger.lineText emits (logger.entry r time) =
        logger.lineText emits (logger.entry r' time) :=
      hlines _ _ (logger.holds_entry r time) (logger.holds_entry r' time)
    refine ⟨hline, ?_, hlines⟩
    show (if logger.admits r.level then logger.lineText emits (logger.entry r time) ++ ['\n']
      else []) = if logger.admits r'.level then
        logger.lineText emits (logger.entry r' time) ++ ['\n'] else []
    rw [hlevel, hline]

/-- Two ways to the same last values: one key is set again, then not to a value that JSON
    has, the session is contradicted, and a place is given that is not shown. -/
theorem Logger.console_lines_rearranged :
    let s : Settings := {}
    let logger : Logger := { Logger.ofSettings "sweep" s with session := some "s1" }
    let time : Timestamp := { seconds := 1704164645, nanos := 120000000 }
    let r : Remark :=
      { level := .warn
        message := "Done"
        notes :=
          [.value "b" (.ofNat 1), .location ⟨"a.rs", 7, none⟩, .value "é" .null,
           .value "session_id" (.string "mine"),
           .value "b" (.object [("y", .null), ("x", .ofNat 2)]), .field "b" none] }
    let r' : Remark :=
      { level := .warn
        message := "Done"
        notes := [.value "b" (.object [("x", .ofNat 2), ("y", .null)]), .value "é" .null] }
    logger.write false time r = logger.write false time r' ∧
      String.ofList (logger.write false time r) =
        "03:04:05.120  WARN [sweep] Done \x7bb=\x7b\"x\":2,\"y\":null\x7d, " ++
          "session_id=\"s1\", é=null\x7d\n" := by
  intro s logger time r r'
  have hvalues : ∀ key, logger.value? r key = logger.value? r' key := by
    intro key
    by_cases hsession : key = "session_id"
    · rw [hsession]
      rfl
    by_cases hb : key = "b"
    · rw [hb]
      rfl
    by_cases he : key = "é"
    · rw [he]
      rfl
    simp [value?, Remark.value?, Note.value?, Note.value, Note.fields, r, r', hsession, hb, he]
  have hplace : s.debug = true → r.place? = r'.place? := by
    intro hdebug
    cases hdebug
  obtain ⟨_, hsame⟩ := console_lines "sweep" (some "s1") (s := s) rfl false time
  refine ⟨(hsame r r' rfl rfl hvalues hplace).2.1, ?_⟩
  have hadmits : logger.admits r.level = true := rfl
  show String.ofList (if logger.admits r.level then
    logger.lineText false (logger.entry r time) ++ ['\n'] else []) = _
  rw [if_pos hadmits, lineText, lineOver_entry logger false rfl,
    fieldsText_eq (mergeSort_members _)]
  decide +kernel

end SimSweep.Log
