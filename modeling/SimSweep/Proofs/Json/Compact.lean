import SimSweep.Proofs.Json.Magnitude

/-! # Compact text stands on one line

    No text that is written without blanks has a control character below the blank, so
    none has a line break: strings escape them, whatever else they hold, and the other
    tokens have none. Control characters above the blank stand in strings as they are.
-/

namespace SimSweep.Json

/-- The control characters below the blank. -/
def isLow (c : Char) : Bool := decide (c.toNat < 0x20)

/-- A text without them. -/
def NoneLow (cs : List Char) : Prop := ∀ c ∈ cs, ¬ isLow c

namespace NoneLow

variable {c : Char} {cs ds : List Char}

theorem nil : NoneLow [] := by simp [NoneLow]

theorem cons (h : ¬ isLow c) (hs : NoneLow cs) : NoneLow (c :: cs) := by
  unfold NoneLow
  rw [List.forall_mem_cons]
  exact ⟨h, hs⟩

theorem append (h : NoneLow cs) (h' : NoneLow ds) : NoneLow (cs ++ ds) := by
  unfold NoneLow
  rw [List.forall_mem_append]
  exact ⟨h, h'⟩

theorem of_any (h : cs.any isLow = false) : NoneLow cs :=
  List.any_eq_false.mp h

theorem of_digits (h : ∀ c ∈ cs, c.isDigit) : NoneLow cs := by
  intro c hc hlow
  have hdigit := (Char.isDigit_iff_toNat.mp (h c hc)).1
  have hlt := of_decide_eq_true hlow
  exact absurd (Nat.lt_of_le_of_lt hdigit hlt) (by decide)

theorem digitsOf (n : Nat) : NoneLow (Decimal.digitsOf n) :=
  of_digits fun _ => Decimal.isDigit_of_mem_digitsOf

end NoneLow

/-! ## Section 1: Strings -/

theorem not_isLow_hexDigit :
    ∀ n < 0x20, ¬ isLow (hexDigit (n / 16)) ∧ ¬ isLow (hexDigit n) := by
  decide

/-- What is written for a character has no low one, whatever the character. -/
theorem noneLow_escapeChar (c : Char) : NoneLow (escapeChar c) := by
  have hslash : ¬ isLow '\\' := by decide
  have hescape : ∀ d, ¬ isLow d → NoneLow ['\\', d] := fun d hd => .cons hslash (.cons hd .nil)
  unfold escapeChar
  split_ifs with _ _ _ _ _ _ _ hcontrol
  -- a letter behind the backslash, but for the other low characters and for all the rest
  all_goals first
    | exact hescape _ (by decide)
    | skip
  · obtain ⟨hhigh, hlow⟩ := not_isLow_hexDigit c.toNat hcontrol
    have hzero : ¬ isLow '0' := by decide
    exact .cons hslash <| .cons (by decide) <| .cons hzero <| .cons hzero <| .cons hhigh <|
      .cons hlow .nil
  · exact .cons (fun hlow => hcontrol (of_decide_eq_true hlow)) .nil

theorem noneLow_quote (cs : List Char) : NoneLow (quote cs) := by
  have hquote : ¬ isLow '"' := by decide
  refine .cons hquote (.append ?_ (.cons hquote .nil))
  intro c hc
  obtain ⟨d, _, hd⟩ := List.mem_flatMap.mp hc
  exact noneLow_escapeChar d c hd

/-- A key with its colon keeps the text of a value free of low characters. -/
theorem noneLow_member (key : String) {cs : List Char} (h : NoneLow cs) :
    NoneLow (quote key.toList ++ ':' :: cs) :=
  (noneLow_quote key.toList).append (.cons (by decide) h)

/-! ## Section 2: Numbers -/

theorem Numeral.IsWritten.noneLow_text {n : Numeral} (h : n.IsWritten) : NoneLow n.text := by
  unfold Numeral.text
  refine (NoneLow.append (.of_digits h.isDigit_whole) ?_).append ?_
  · cases hfraction : n.fraction with
    | none => exact .nil
    | some ds => exact .cons (by decide) (.of_digits (h.fraction ds hfraction).2)
  · cases n.exponent with
    | none => exact .nil
    | some x =>
      have hsign : ¬ isLow (if x.negative then '-' else '+') := by
        split <;> decide
      exact .cons (by decide) (.cons hsign (.digitsOf x.value))

/-- The numeral of a number, and what stands for one that is not finite. -/
theorem Number.noneLow_write (n : Number) : NoneLow n.write := by
  have hdash : ∀ negative : Bool, NoneLow (if negative then ['-'] else []) := by
    rintro (_ | _)
    · exact .nil
    · exact .cons (by decide) .nil
  cases n with
  | natural n => exact .digitsOf n
  | negative n => exact .cons (by decide) (.digitsOf n)
  | float x =>
    cases x with
    | nan => exact .of_any (by decide)
    | infinite negative => exact (hdash negative).append (.of_any (by decide))
    | finite negative k =>
      obtain ⟨numeral, hwritten, _, htext, _⟩ := exists_numeral k.isLt
      refine (hdash negative).append ?_
      rw [htext]
      exact hwritten.noneLow_text

/-! ## Section 3: Values -/

namespace Value

mutual

/-- No low character is written for a value. -/
theorem noneLow_write (level : Nat) (v : Value) : NoneLow (v.write .compact level) := by
  match v with
  | .null => rw [write]; exact .of_any (by decide)
  | .bool true => rw [write]; exact .of_any (by decide)
  | .bool false => rw [write]; exact .of_any (by decide)
  | .number n => rw [write]; exact n.noneLow_write
  | .string s => rw [write]; exact noneLow_quote s.toList
  | .array [] => rw [write]; exact .of_any (by decide)
  | .array (v :: rest) =>
    rw [write]
    exact .cons (by decide) (.append (noneLow_write (level + 1) v) (noneLow_writeItems level rest))
  | .object [] => rw [write]; exact .of_any (by decide)
  | .object ((k, v) :: rest) =>
    rw [write]
    have htail := (noneLow_member k (noneLow_write (level + 1) v)).append
      (noneLow_writeMembers level rest)
    exact .cons (by decide) (by simpa [Layout.compact] using htail)

theorem noneLow_writeItems (level : Nat) (items : List Value) :
    NoneLow (writeItems .compact level items) := by
  match items with
  | [] => exact .cons (by decide) .nil
  | v :: rest =>
    rw [writeItems]
    exact .cons (by decide) (.append (noneLow_write (level + 1) v) (noneLow_writeItems level rest))

theorem noneLow_writeMembers (level : Nat) (members : List (String × Value)) :
    NoneLow (writeMembers .compact level members) := by
  match members with
  | [] => exact .cons (by decide) .nil
  | (k, v) :: rest =>
    rw [writeMembers]
    have htail := (noneLow_member k (noneLow_write (level + 1) v)).append
      (noneLow_writeMembers level rest)
    exact .cons (by decide) (by simpa [Layout.compact] using htail)

end

/-- The compact text of a value has no low character, and so no line break. -/
theorem noneLow_compact (v : Value) : NoneLow v.compact := noneLow_write 0 v

end Value

end SimSweep.Json
