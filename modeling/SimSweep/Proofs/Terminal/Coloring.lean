import Mathlib.Data.List.TakeWhile
import SimSweep.Log.Logger
import SimSweep.Proofs.Report.Views
import SimSweep.Proofs.Time.Reading

/-! # Coloring keeps the text

    A message may hold escape sequences of its own, whole ones and pieces of them. When it
    is painted, the opening sequence is repeated behind every reset that it holds, and a
    reset is put at its end. Main statement: stripped of its style sequences, a painted line
    of a failure or of a log is the line that is not painted, stripped in the same way.

    Stripping is a scan from left to right, and the argument follows the scan of the message
    that is not painted (`strip_reopen`). A whole sequence is met by both scans at the same
    time, and what painting puts behind it is a whole sequence too. A piece of a sequence is
    left alone by both: what painting puts in starts with an escape character, and inside a
    sequence there is none, so nothing is put in that would complete a piece
    (`exists_eq_append_of_reopen`).
-/

namespace SimSweep

namespace Terminal

/-! ## Section 1: The scan -/

/-- What is recognized as a style sequence is one. -/
theorem exists_sequence {t after : List Char} (h : afterSequence? t = some after) :
    ∃ s, IsSequence s ∧ t = s ++ after := by
  unfold afterSequence? at h
  split at h
  · next rest =>
    split at h
    · next tail hdrop =>
      cases h
      have hrest : rest.takeWhile isParameter ++ 'm' :: after = rest := by
        rw [← hdrop]
        exact List.takeWhile_append_dropWhile
      refine ⟨escape :: '[' :: (rest.takeWhile isParameter ++ ['m']),
        ⟨_, fun c hc => List.mem_takeWhile_imp hc, rfl⟩, ?_⟩
      rw [List.cons_append, List.cons_append, List.append_assoc, List.singleton_append, hrest]
      rfl
    · cases h
  · cases h

/-- A style sequence has one escape character, its first. -/
theorem IsSequence.exists_eq_cons {s : List Char} (h : IsSequence s) :
    ∃ u, s = escape :: u ∧ escape ∉ u := by
  obtain ⟨parameters, hparameters, rfl⟩ := h
  have hnone : escape ∉ parameters := fun hmem => absurd (hparameters _ hmem) (by decide)
  have hletter : escape ∉ ['m'] := by decide
  refine ⟨'[' :: (parameters ++ ['m']), rfl, ?_⟩
  rw [List.mem_cons, List.mem_append, not_or, not_or]
  exact ⟨by decide, hnone, hletter⟩

theorem strip_of_none {c : Char} {rest : List Char} (h : afterSequence? (c :: rest) = none) :
    strip (c :: rest) = c :: strip rest := by
  rw [strip]
  split
  · next heq => cases h.symm.trans heq
  · rfl

/-- The front of a dressed text is stripped, whatever comes after it. -/
theorem Dressed.strip_append {u t : List Char} (h : Dressed u t) (rest : List Char) :
    strip (u ++ rest) = t ++ strip rest := by
  induction h with
  | nil => rfl
  | char hc _ ih => rw [List.cons_append, strip_cons_of_ne hc, ih, List.cons_append]
  | sequence hs _ ih => rw [List.append_assoc, strip_sequence hs, ih]

/-! ## Section 2: Sequences that are repeated -/

section

variable (o : List Char)

theorem reopen_cons {c : Char} {rest : List Char} (h : ∀ after, c :: rest ≠ reset ++ after) :
    reopen o (c :: rest) = c :: reopen o rest := by
  rw [reopen.eq_2]
  intro after hc hrest
  rw [hc, hrest] at h
  exact h after rfl

/-- Nothing is put in where there is no escape character. -/
theorem reopen_append {u : List Char} (h : escape ∉ u) (t : List Char) :
    reopen o (u ++ t) = u ++ reopen o t := by
  induction u with
  | nil => rfl
  | cons c u ih =>
    rw [List.mem_cons, not_or] at h
    have hne : ∀ after, c :: (u ++ t) ≠ reset ++ after := by
      intro after heq
      exact h.1 (List.cons.inj heq).1.symm
    rw [List.cons_append, reopen_cons o hne, ih h.2, List.cons_append]

/-- What stands in front of the first escape character was there before anything was put
    in, and so were the characters behind it. -/
theorem exists_eq_append_of_reopen {u rest t : List Char} (hu : escape ∉ u)
    (h : reopen o t ++ reset = u ++ rest) : ∃ rest', t = u ++ rest' := by
  induction u generalizing t with
  | nil => exact ⟨t, rfl⟩
  | cons c u ih =>
    rw [List.mem_cons, not_or] at hu
    unfold reopen at h
    split at h
    · exact absurd (List.cons.inj h).1 hu.1
    · obtain ⟨rfl, htail⟩ := List.cons.inj h
      obtain ⟨rest', rfl⟩ := ih hu.2 htail
      exact ⟨rest', rfl⟩
    · exact absurd (List.cons.inj h).1 hu.1

end

/-- One style sequence stands at the front of a text, or none. -/
theorem IsSequence.eq_of_append_eq {s s' rest rest' : List Char} (hs : IsSequence s)
    (hs' : IsSequence s') (h : s ++ rest = s' ++ rest') : s = s' := by
  have hafter := afterSequence?_sequence hs rest
  rw [h, afterSequence?_sequence hs'] at hafter
  rw [Option.some.inj hafter] at h
  exact List.append_cancel_right h

/-- Stripping takes a style sequence off, and what was put behind it. -/
theorem strip_reopen_sequence {o s : List Char} (ho : IsSequence o) (hs : IsSequence s)
    (after rest : List Char) :
    strip (reopen o (s ++ after) ++ rest) = strip (reopen o after ++ rest) := by
  by_cases hreset : s = reset
  · rw [hreset]
    show strip (reset ++ o ++ reopen o after ++ rest) = _
    rw [List.append_assoc, List.append_assoc, strip_sequence isSequence_reset, strip_sequence ho]
  · obtain ⟨u, rfl, hu⟩ := hs.exists_eq_cons
    have hne : ∀ after', escape :: (u ++ after) ≠ reset ++ after' := fun after' heq =>
      hreset (hs.eq_of_append_eq isSequence_reset heq)
    rw [List.cons_append, reopen_cons o hne, reopen_append o hu, ← List.cons_append,
      List.append_assoc]
    exact strip_sequence hs _

/-- No sequence is completed by what is put in. -/
theorem afterSequence?_reopen {c : Char} {rest : List Char} (h : afterSequence? (c :: rest) = none)
    (o : List Char) : afterSequence? (c :: (reopen o rest ++ reset)) = none := by
  cases hfound : afterSequence? (c :: (reopen o rest ++ reset)) with
  | none => rfl
  | some after =>
    obtain ⟨s, hs, heq⟩ := exists_sequence hfound
    obtain ⟨u, rfl, hu⟩ := hs.exists_eq_cons
    obtain ⟨rfl, htail⟩ := List.cons.inj heq
    obtain ⟨rest', rfl⟩ := exists_eq_append_of_reopen o hu htail
    cases h.symm.trans (afterSequence?_sequence hs rest')

/-- The scan of a text with sequences put in leaves what the scan of the text leaves. -/
theorem strip_reopen {o : List Char} (ho : IsSequence o) (t : List Char) :
    strip (reopen o t ++ reset) = strip t := by
  induction t using strip.induct with
  | case1 t after h ih =>
    obtain ⟨s, hs, rfl⟩ := exists_sequence h
    rw [strip_reopen_sequence ho hs, ih, strip_sequence hs]
  | case2 h => exact strip_sequence isSequence_reset []
  | case3 c rest h ih =>
    -- a character that starts no sequence, so no reset either
    have hne : ∀ after, c :: rest ≠ reset ++ after := by
      intro after heq
      rw [heq, afterSequence?_sequence isSequence_reset] at h
      cases h
    rw [reopen_cons o hne, List.cons_append, strip_of_none (afterSequence?_reopen h o), ih,
      strip_of_none h]

/-- Painting changes nothing but the style. -/
theorem strip_paint (emits : Bool) (s : Style) (t : List Char) :
    strip (paint emits s t) = strip t := by
  unfold paint
  split
  · rw [List.append_assoc, strip_sequence (isSequence_opening s),
      strip_reopen (isSequence_opening s)]
  · rfl

end Terminal

/-! ## Section 3: Lines -/

open Terminal (Dressed escape paint strip dressed_paint strip_paint)

namespace Failure

variable (f : Failure) (emits wantsColor : Bool)

theorem escape_notMem_category : escape ∉ f.category.toList := by
  have htags : ∀ tag ∈ ["CONFIG", "VALIDATION", "LAUNCH", "SWEEP", "INTERNAL"],
      escape ∉ tag.toList := by
    decide
  exact htags f.category (by cases f <;> simp [category])

/-- A line in two colors: the tag in bold, then the message. -/
theorem toList_consoleText :
    (f.consoleText emits wantsColor).toList =
      "[".toList ++ paint (emits && wantsColor) (.boldColored f.color) f.category.toList ++
        "] ".toList ++ paint (emits && wantsColor) (.colored f.color) f.message.toList := by
  unfold consoleText line StyledText.paint StyledText.ofString StyledText.styled
  simp only [String.toList_ofList, List.flatMap_append, List.flatMap_singleton,
    Terminal.paint_plain]

/-- The tag of a failure is taken for what it is, and the message is stripped. -/
theorem strip_consoleText :
    strip (f.consoleText emits wantsColor).toList =
      '[' :: f.category.toList ++ "] ".toList ++ strip f.message.toList := by
  have hopen : escape ∉ "[".toList := by decide
  have hclose : escape ∉ "] ".toList := by decide
  have hfront := ((Dressed.refl hopen).append
    (dressed_paint (emits && wantsColor) (.boldColored f.color) f.escape_notMem_category)).append
      (.refl hclose)
  rw [f.toList_consoleText, hfront.strip_append, strip_paint]
  rfl

/-- Where no color is wanted the line is its text. -/
theorem consoleText_false : f.consoleText emits false = "[" ++ f.category ++ "] " ++ f.message := by
  apply String.toList_inj.mp
  rw [f.toList_consoleText, Bool.and_false, Terminal.paint_false, Terminal.paint_false]
  simp only [String.toList_append]

end Failure

namespace Log.Logger

variable (logger : Logger) (emits : Bool) (e : Entry) (listing : List (String × Json.Value))

theorem escape_notMem_clockMillis (t : Timestamp) : escape ∉ t.clockMillis := by
  have hpadded : ∀ width n, escape ∉ Timestamp.padded width n := fun _ _ =>
    escape_notMem_of_digits fun _ => Timestamp.isDigit_of_mem_padded
  have hcolon : escape ≠ ':' := by decide
  have hpoint : escape ≠ '.' := by decide
  simp [Timestamp.clockMillis, Timestamp.clockText, hpadded, hcolon, hpoint]

theorem escape_notMem_tag (level : Level) : escape ∉ padLeft ' ' 5 level.tag.toList := by
  cases level <;> decide

/-- What a line shows behind the tag of its level, which has no color. -/
def bodyText : List Char :=
  " [".toList ++ e.logger.toList ++ "] ".toList ++ e.message.toList ++ fieldsText listing ++
    logger.locationText e

/-- A line with one piece that may have a color. -/
theorem paint_consoleText :
    (logger.consoleText e listing).paint emits =
      e.timestamp.clockMillis ++ [' '] ++
        paint emits (if logger.colors then .colored e.level.color else .plain)
          (padLeft ' ' 5 e.level.tag.toList) ++ logger.bodyText e listing := by
  unfold consoleText tagText bodyText StyledText.paint
  simp only [List.flatMap_append, List.flatMap_singleton, Terminal.paint_plain]

/-- The tag of the level is taken for what it is, and what comes behind it is stripped. -/
theorem strip_consoleText :
    strip ((logger.consoleText e listing).paint emits) =
      e.timestamp.clockMillis ++ [' '] ++ padLeft ' ' 5 e.level.tag.toList ++
        strip (logger.bodyText e listing) := by
  have hblank : escape ∉ [' '] := by decide
  have hfront := ((Dressed.refl (escape_notMem_clockMillis e.timestamp)).append
    (.refl hblank)).append
      (dressed_paint emits (if logger.colors then .colored e.level.color else .plain)
        (escape_notMem_tag e.level))
  rw [logger.paint_consoleText, hfront.strip_append]

/-- Where no color is wanted the line is its text. -/
theorem paint_consoleText_of_not_colors (h : logger.colors = false) :
    (logger.consoleText e listing).paint emits =
      e.timestamp.clockMillis ++ [' '] ++ padLeft ' ' 5 e.level.tag.toList ++
        logger.bodyText e listing := by
  rw [logger.paint_consoleText, h, if_neg (by decide), Terminal.paint_plain]

end Log.Logger

/-- A failure and an entry of a log are shown with one text, whether in color or not, however
    the fields are listed and whatever escape sequences or pieces of them stand in it: without
    its style sequences, the line in color is the line without color that is stripped of them
    in the same way, and the line without color has nothing but the text. -/
theorem strip_line_colored :
    (∀ (f : Failure) (emits : Bool),
      strip (f.consoleText emits true).toList = strip (f.consoleText emits false).toList ∧
      f.consoleText emits false = "[" ++ f.category ++ "] " ++ f.message) ∧
    ∀ (logger : Log.Logger) (e : Log.Entry) (emits : Bool) (listing : List (String × Json.Value)),
      let colored := { logger with colors := true }
      let plain := { logger with colors := false }
      strip (colored.lineText emits e) = strip (plain.lineText emits e) ∧
      strip (colored.lineOver emits e listing) = strip (plain.lineOver emits e listing) ∧
      (plain.consoleText e listing).paint emits =
        e.timestamp.clockMillis ++ [' '] ++ padLeft ' ' 5 e.level.tag.toList ++
          logger.bodyText e listing := by
  constructor
  · intro f emits
    rw [f.strip_consoleText, f.strip_consoleText]
    exact ⟨rfl, f.consoleText_false emits⟩
  · intro logger e emits listing colored plain
    have hline : ∀ listing,
        strip (colored.lineOver emits e listing) = strip (plain.lineOver emits e listing) := by
      intro listing
      have hbody : colored.bodyText e listing = plain.bodyText e listing := rfl
      unfold Log.Logger.lineOver
      -- a line of JSON has no color at all
      by_cases hjson : logger.writesJson
      · rw [if_pos hjson, if_pos hjson]
      · rw [if_neg hjson, if_neg hjson, colored.strip_consoleText, plain.strip_consoleText, hbody]
    exact ⟨hline e.fields.members, hline listing,
      plain.paint_consoleText_of_not_colors emits e listing rfl⟩

end SimSweep
