import SimSweep.Proofs.Json.Codec
import SimSweep.Proofs.Json.Scaling
import SimSweep.Serial.Report

/-! # Reports read back

    The parts of a report are decoded from their own text, from the inside out: so is
    the report, if its rates and distances are whole numbers of 32 bits and the text of
    its start is that of no other instant. Neither the number of invocations matters
    nor what stands in their commands and endings.
-/

namespace SimSweep

open Json (Decoder Number Record Value)

/-! ## Section 1: Points and durations -/

theorem Json.Decoder.reads_binary64_word {x : Binary64} (h : x.isWord) :
    Decoder.binary64.Reads Number.reread 0 (.ofBinary64 x) x := by
  have hnumber : Value.ofBinary64 x = .number (.float x) := by
    obtain ⟨negative, k, _, rfl, _, _⟩ := Binary64.exists_of_isWord h
    rfl
  have hreads := Number.readsAs_word h
  rw [hnumber]
  refine ⟨fun _ _ => hreads.reread, ?_⟩
  rw [Value.node, hreads.reread_eq]
  rfl

theorem Json.Decoder.reads_int64 (i : Int64) :
    Decoder.int64.Reads Number.reread 0 (.ofInt i.toInt) i := by
  have hlo := Int64.le_toInt i
  have hhi := Int64.toInt_lt i
  have h := (Decoder.reads_intBetween (-Nat.pow 2 63) (Nat.pow 2 63 - 1) hlo
    (by norm_num; omega) (by decide)).map Int64.ofInt
  rw [Int64.ofInt_toInt] at h
  exact h

/-- A natural number that fits some bits, at most 64. -/
theorem Json.Decoder.reads_word {bits n : Nat} (h : n < Nat.pow 2 bits) (hbits : bits ≤ 64) :
    (Decoder.word bits).Reads Number.reread 0 (.ofNat n) n := by
  have hpow : Nat.pow 2 bits ≤ Nat.pow 2 64 := Nat.pow_le_pow_right (by decide) hbits
  have hword : ((Nat.pow 2 bits : Nat) : Int) - 1 ≤ Json.wordLimit := by
    unfold Json.wordLimit
    omega
  have hread := (Decoder.reads_intBetween 0 (Nat.pow 2 bits - 1) (i := n) (by omega) (by omega)
    ⟨by decide, hword⟩).map Int.toNat
  rw [Value.ofInt_natCast, Int.toNat_natCast] at hread
  exact hread

theorem Point.reads {p : Point} (hrate : p.rate.isWord) (hdistance : p.distance.isWord) :
    Point.codec.decode.Reads Number.reread 1 (Point.codec.encode p) p := by
  have htakes := (((Record.takes_required "data_rate"
    (Decoder.reads_binary64_word hrate)).map Point.mk).seq
    (Record.takes_required "distance" (Decoder.reads_binary64_word hdistance))).seq
    (Record.takes_required "run" (Decoder.reads_int64 p.run))
  exact htakes.reads (by simp) true

/-- The nanoseconds of a duration hold no whole second that could be carried. -/
theorem Duration.ofParts?_eq (d : Duration) : Duration.ofParts? d.seconds d.nanos = some d := by
  have hcarry : d.nanos / Nat.pow 10 9 = 0 := Nat.div_eq_of_lt d.nanos_lt
  have hnanos : d.nanos % Nat.pow 10 9 = d.nanos := Nat.mod_eq_of_lt d.nanos_lt
  unfold Duration.ofParts?
  simp only [hcarry, hnanos, Nat.add_zero, d.seconds_lt, dif_pos]

theorem Duration.reads (d : Duration) :
    Duration.codec.decode.Reads Number.reread 1 (Duration.codec.encode d) d := by
  have hnanos : d.nanos < Nat.pow 2 32 := Nat.lt_trans d.nanos_lt (by decide)
  have hparts := ((Record.takes_required "secs"
    (Decoder.reads_word d.seconds_lt (by decide))).map Prod.mk).seq
    (Record.takes_required "nanos" (Decoder.reads_word hnanos (by decide)))
  have htakes : Duration.fields.Takes Number.reread 0 _ d :=
    hparts.refine (by simp only [d.ofParts?_eq])
  exact htakes.reads (by simp) false

/-! ## Section 2: Endings -/

namespace Ending

theorem reads_code (code : Int32) :
    Decoder.Reads decodeCode Number.reread 0 (.ofInt code.toInt) code := by
  have hlo := Int32.le_toInt code
  have hhi := Int32.toInt_lt code
  have h := (Decoder.reads_intBetween (-Nat.pow 2 31) (Nat.pow 2 31 - 1) hlo
    (by norm_num; omega) (by decide)).map Int32.ofInt
  rw [Int32.ofInt_toInt] at h
  exact h

/-- A signal that need not be known. -/
theorem reads_signal (signal : Option Int32) :
    (Decoder.nullable decodeCode).Reads Number.reread 0
      (.ofOption (fun s => .ofInt s.toInt) signal) signal := by
  cases signal with
  | none => exact ⟨fun _ _ => trivial, rfl⟩
  | some s => exact ⟨(reads_code s).fitsAt, ((reads_code s).map some).decode⟩

theorem reads (e : Ending) :
    Ending.codec.decode.Reads Number.reread 1 (Ending.codec.encode e) e := by
  cases e with
  | success =>
    exact Json.Tagged.reads_variant rfl (by simp) (Record.takes_pure _) (by simp)
  | failed code =>
    have htakes := (Record.takes_required "code" (reads_code code)).map Ending.failed
    exact Json.Tagged.reads_variant rfl (by simp) htakes (by simp)
  | terminated signal =>
    have htakes := (Record.takes_nullable "signal" (reads_signal signal)).map Ending.terminated
    exact Json.Tagged.reads_variant rfl (by simp) htakes (by simp)
  | notStarted reason =>
    have htakes := (Record.takes_required "reason"
      (Decoder.reads_string (f := Number.reread) reason)).map Ending.notStarted
    exact Json.Tagged.reads_variant rfl (by simp) htakes (by simp)

end Ending

/-! ## Section 3: Any report has a text

    Whatever its numbers are read as: those that are not finite are not written as numbers. -/

theorem Json.Value.ofBinary64_fitsAt (x : Binary64) (level : Nat) :
    (Value.ofBinary64 x).FitsAt Number.reread level := by
  unfold Value.ofBinary64
  split
  · next h =>
    obtain ⟨m, hm⟩ := Number.exists_readsAs h
    exact hm.reread
  · trivial

theorem Point.fitsAt (p : Point) {level : Nat} (h : level + 1 ≤ Json.depthLimit) :
    (Point.codec.encode p).FitsAt Number.reread level :=
  ⟨h, Json.Value.ofBinary64_fitsAt _ _, Json.Value.ofBinary64_fitsAt _ _,
    (Decoder.reads_int64 p.run).fitsAt (level + 1) h, trivial⟩

theorem Invocation.fitsAt (i : Invocation) {level : Nat} (h : level + 2 ≤ Json.depthLimit) :
    (Invocation.codec.encode i).FitsAt Number.reread level :=
  ⟨by omega, i.point.fitsAt h, trivial, (Ending.reads i.ending).fitsAt (level + 1) h,
    (Duration.reads i.duration).fitsAt (level + 1) h, trivial⟩

namespace Report

theorem fitsAt (r : Report) : (Report.codec.encode r).FitsAt Number.reread 0 := by
  refine ⟨by decide, trivial, (Duration.reads r.totalDuration).fitsAt 1 (by decide),
    ⟨by decide, ?_⟩, trivial⟩
  rw [Value.itemsFitAt_iff, List.forall_mem_map]
  exact fun i _ => i.fitsAt (by decide)

/-- The indented text of a report. -/
def prettyText (r : Report) : List Char := (Report.codec.encode r).write .pretty 0

/-- Every report can be written. -/
@[simp] theorem jsonText_eq (r : Report) : r.jsonText = .ok (String.ofList r.prettyText) := by
  unfold jsonText prettyText
  rw [r.fitsAt.render_eq]
  rfl

end Report

/-! ## Section 4: Reports read back -/

theorem Invocation.reads {i : Invocation} (hrate : i.point.rate.isWord)
    (hdistance : i.point.distance.isWord) :
    Invocation.codec.decode.Reads Number.reread 2 (Invocation.codec.encode i) i := by
  have htakes := ((((Record.takes_required "point"
    (Point.reads hrate hdistance)).map Invocation.mk).seq
    (Record.takes_required "command" ((Decoder.reads_string i.command).mono (by decide)))).seq
    (Record.takes_required "state" (Ending.reads i.ending))).seq
    (Record.takes_required "duration" (Duration.reads i.duration))
  exact htakes.reads (by simp) true

theorem Timestamp.reads {t : Timestamp} (h : Timestamp.read? t.text = some t) :
    Timestamp.codec.decode.Reads Number.reread 0 (Timestamp.codec.encode t) t where
  fitsAt _ _ := trivial
  decode := by
    have hlist : (String.ofList t.text).toList = t.text := String.toList_ofList
    simp only [codec, Value.node, Decoder.string, bind, Except.bind, hlist, h]
    rfl

namespace Report

theorem reads {r : Report} (hstart : Timestamp.read? r.startedAt.text = some r.startedAt)
    (hwords : ∀ i ∈ r.invocations, i.point.rate.isWord ∧ i.point.distance.isWord) :
    Report.codec.decode.Reads Number.reread 4 (Report.codec.encode r) r := by
  have hitems := Json.Codec.reads_list fun i hi => Invocation.reads (hwords i hi).1 (hwords i hi).2
  have htotal := (Duration.reads r.totalDuration).mono (show 1 ≤ 3 by decide)
  have htakes := (((Record.takes_required "started_at"
    ((Timestamp.reads hstart).mono (by decide))).map Report.mk).seq
    (Record.takes_required "total_duration" htotal)).seq
    (Record.takes_required "outcomes" hitems)
  exact htakes.reads (by simp) true

/-- A report has a JSON text and is decoded from it, whatever the number of its
    invocations, their commands, endings, durations and run indices, as long as the rates
    and the distances are whole numbers of 32 bits. That the text of the start is read as
    the start is what is asked of the text of timestamps. -/
theorem parse_jsonText (r : Report)
    (hstart : Timestamp.read? r.startedAt.text = some r.startedAt)
    (hwords : ∀ i ∈ r.invocations, i.point.rate.isWord ∧ i.point.distance.isWord) :
    ∃ text, r.jsonText = .ok text ∧ Report.codec.parse text.toList = .ok r := by
  refine ⟨_, r.jsonText_eq, ?_⟩
  rw [String.toList_ofList]
  exact (reads hstart hwords).parse (by decide) Json.Layout.pretty_isBlank

/-- A report at the limits of its numbers, with strings that need every kind of escape. -/
def unruly : Report where
  startedAt := { seconds := 1704164645, nanos := 120000000 }
  totalDuration := { seconds := 18446744073709551615, nanos := 999999999 }
  invocations :=
    [{ point := ⟨.ofNat 4294967295, .zero true, Int64.minValue⟩
       command := "./waf --run \"wave \\ ünïcode 😀\"\n\r\t\x08\x0c\x1f\x00\x7f"
       ending := .terminated none
       duration := .zero },
     { point := ⟨.ofNat 0, .ofNat 150, Int64.maxValue⟩
       command := ""
       ending := .notStarted "no \"sh\"\n, \x7d]: \u2028"
       duration := .between 2 3 },
     { point := ⟨.ofNat 800000, .ofNat 2, 7⟩
       command := "true"
       ending := .failed Int32.minValue
       duration := .zero }]

theorem parse_jsonText_unruly :
    (Timestamp.read? unruly.startedAt.text = some unruly.startedAt ∧
      ∀ i ∈ unruly.invocations, i.point.rate.isWord ∧ i.point.distance.isWord) ∧
    ∃ text, unruly.jsonText = .ok text ∧ Report.codec.parse text.toList = .ok unruly := by
  have hstart : Timestamp.read? unruly.startedAt.text = some unruly.startedAt := by
    decide +kernel
  have hwords : ∀ i ∈ unruly.invocations, i.point.rate.isWord ∧ i.point.distance.isWord := by
    decide +kernel
  exact ⟨⟨hstart, hwords⟩, parse_jsonText unruly hstart hwords⟩

/-- The text of a report and any blanks behind it are one JSON text. -/
theorem exists_parse_prettyText (r : Report) {s : List Char} (hs : ∀ c ∈ s, Json.isSpace c) :
    ∃ v, Value.parse (r.prettyText ++ s) = .ok v :=
  Value.exists_parse_write Json.Layout.pretty_isBlank r.fitsAt hs

end Report

end SimSweep
