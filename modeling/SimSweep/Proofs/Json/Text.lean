import Mathlib.Tactic.SplitIfs
import SimSweep.Json.Printer
import SimSweep.Json.Text

/-! # Strings read back

    What is written for a character of a string is read as this character, whether it
    was escaped or not. So the text between the quotes is read as the string, and the
    closing quote is the first one that is not escaped.
-/

namespace SimSweep.Json

/-- The two digits that are written for a control character are its code. -/
theorem hexUnit?_control :
    ∀ n < 0x20, hexUnit? '0' '0' (hexDigit (n / 16)) (hexDigit n) = some n := by
  decide

/-- A control character is no half of a pair. -/
theorem readString_control {c : Char} (h : c.toNat < 0x20) (cs : List Char) :
    readString ('\\' :: 'u' :: '0' :: '0' :: hexDigit (c.toNat / 16) :: hexDigit c.toNat :: cs) =
      (readString cs).cons c := by
  have htrailing : isTrailing c.toNat = false := by
    unfold isTrailing
    rw [decide_eq_false_iff_not]
    omega
  have hleading : isLeading c.toNat = false := by
    unfold isLeading
    rw [decide_eq_false_iff_not]
    omega
  rw [readString]
  simp [hexUnit?_control c.toNat h, htrailing, hleading]

/-- A character that needs no escape stands for itself. -/
theorem readString_plain {c : Char} (hquote : c ≠ '"') (hslash : c ≠ '\\')
    (hcontrol : ¬ c.toNat < 0x20) (cs : List Char) :
    readString (c :: cs) = (readString cs).cons c := by
  rw [readString.eq_def]
  split
  · next heq => cases heq
  · next heq => exact absurd (List.cons.inj heq).1 hquote
  · next heq => exact absurd (List.cons.inj heq).1 hslash
  · next heq => exact absurd (List.cons.inj heq).1 hslash
  · next heq => exact absurd (List.cons.inj heq).1 hslash
  · next heq => exact absurd (List.cons.inj heq).1 hslash
  · next heq =>
    obtain ⟨rfl, rfl⟩ := List.cons.inj heq
    rw [if_neg hcontrol]

/-- A letter behind a backslash stands for the character that it escapes. -/
theorem readString_letter {c letter : Char} (hletter : letter ≠ 'u')
    (h : escaped? letter = some c) (cs : List Char) :
    readString ('\\' :: letter :: cs) = (readString cs).cons c := by
  rw [readString]
  · rw [h]
  · intro _ _ _ _ _ hu
    exact absurd hu hletter
  · exact hletter

/-- What is written for a character is read as the character. -/
theorem readString_escapeChar (c : Char) (cs : List Char) :
    readString (escapeChar c ++ cs) = (readString cs).cons c := by
  unfold escapeChar
  split_ifs with hquote hslash hline hreturn htab hback hfeed hcontrol
  · subst hquote
    exact readString_letter (by decide) rfl cs
  · subst hslash
    exact readString_letter (by decide) rfl cs
  · subst hline
    exact readString_letter (by decide) rfl cs
  · subst hreturn
    exact readString_letter (by decide) rfl cs
  · subst htab
    exact readString_letter (by decide) rfl cs
  · subst hback
    exact readString_letter (by decide) rfl cs
  · subst hfeed
    exact readString_letter (by decide) rfl cs
  · exact readString_control hcontrol cs
  · exact readString_plain hquote hslash hcontrol cs

/-- The text between the quotes is read up to the closing quote. -/
theorem readString_quoted (cs rest : List Char) :
    readString (cs.flatMap escapeChar ++ '"' :: rest) = .ok (.ok cs, rest) := by
  induction cs with
  | nil => simp [readString]
  | cons c cs ih =>
    rw [List.flatMap_cons, List.append_assoc, readString_escapeChar, ih]
    rfl

end SimSweep.Json
