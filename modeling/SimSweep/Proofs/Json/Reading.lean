import Mathlib.Data.List.DropRight
import SimSweep.Proofs.Json.Numeral
import SimSweep.Proofs.Json.Text

/-! # What is written is read

    The text of a value is read as the tree of the value (`read_write`), wherever the
    layout puts blanks. The reader has fuel for two calls for each character of a text.
    An item costs one call for itself and one for what follows it, and both stand on
    characters of their own, so the fuel lasts.

    What numbers are read as is left open here: a value *fits* if its numbers are read
    as some function says, and if its arrays and objects are not nested too deeply.
-/

namespace SimSweep.Json

/-! ## Section 1: Blanks between tokens -/

/-- The characters that may stand between tokens. -/
def isSpace (c : Char) : Bool := c == ' ' || c == '\n' || c == '\t' || c == '\r'

theorem skipBlanks_eq (cs : List Char) : skipBlanks cs = cs.dropWhile isSpace := rfl

theorem skipBlanks_append {s : List Char} (h : ∀ c ∈ s, isSpace c) (cs : List Char) :
    skipBlanks (s ++ cs) = skipBlanks cs := List.dropWhile_append_of_pos h

@[simp] theorem skipBlanks_cons {c : Char} (h : isSpace c = false) (cs : List Char) :
    skipBlanks (c :: cs) = c :: cs := by
  rw [skipBlanks_eq, List.dropWhile_cons_of_neg (by simp [h])]

@[simp] theorem skipBlanks_skipBlanks (cs : List Char) :
    skipBlanks (skipBlanks cs) = skipBlanks cs :=
  List.dropWhile_idempotent isSpace cs

theorem not_numeral_of_isSpace {c : Char} (h : isSpace c) :
    ¬ c.isDigit ∧ c ≠ '.' ∧ c ≠ 'e' ∧ c ≠ 'E' := by
  unfold isSpace at h
  simp only [Bool.or_eq_true, beq_iff_eq] at h
  rcases h with ((rfl | rfl) | rfl) | rfl <;> decide

theorem stopsNumeral_of_isSpace {s : List Char} (h : ∀ c ∈ s, isSpace c) : StopsNumeral s :=
  fun c hc => not_numeral_of_isSpace (h c (List.mem_of_mem_head? hc))

/-- A token that is not part of a numeral stops one, with blanks before it or without. -/
theorem stopsNumeral_append {s : List Char} (h : ∀ c ∈ s, isSpace c) {c : Char}
    (hc : ¬ c.isDigit ∧ c ≠ '.' ∧ c ≠ 'e' ∧ c ≠ 'E') (cs : List Char) :
    StopsNumeral (s ++ c :: cs) := by
  cases s with
  | nil =>
    intro d hd
    obtain rfl : c = d := Option.some.inj hd
    exact hc
  | cons d s =>
    intro d' hd'
    obtain rfl : d = d' := Option.some.inj hd'
    exact not_numeral_of_isSpace (h d List.mem_cons_self)

/-- A layout puts nothing but blanks between tokens. -/
structure Layout.IsBlank (l : Layout) : Prop where
  lineBreak : ∀ level, ∀ c ∈ l.lineBreak level, isSpace c
  colonGap : ∀ c ∈ l.colonGap, isSpace c

theorem Layout.compact_isBlank : Layout.compact.IsBlank where
  lineBreak := by simp [Layout.compact]
  colonGap := by simp [Layout.compact]

theorem Layout.pretty_isBlank : Layout.pretty.IsBlank where
  lineBreak := by
    intro level c hc
    rcases List.mem_cons.mp hc with rfl | hc
    · rfl
    · rw [List.eq_of_mem_replicate hc]
      rfl
  colonGap := by simp [Layout.pretty, isSpace]

/-! ## Section 2: The tree of a value -/

namespace Value

section

variable (f : Number → Number)

mutual

/-- The tree of a value without faults, in which numbers are what they are read as. -/
def node : Value → Node
  | .null => .null
  | .bool b => .bool b
  | .number n => .number (.ok (f n))
  | .string s => .string (.ok s)
  | .array items => .array none (nodes items) none
  | .object members => .object none (memberNodes members) none

/-- The trees of some items. -/
def nodes : List Value → List Node
  | [] => []
  | v :: rest => v.node :: nodes rest

/-- The trees of some members. -/
def memberNodes : List (String × Value) → List (Except Fault String × Node)
  | [] => []
  | (k, v) :: rest => (.ok k, v.node) :: memberNodes rest

end

mutual

/-- Inside `level` arrays and objects a value is read as its tree. -/
def FitsAt (level : Nat) : Value → Prop
  | .number n => n.ReadsAs (f n)
  | .array items => level < depthLimit ∧ ItemsFitAt (level + 1) items
  | .object members => level < depthLimit ∧ MembersFitAt (level + 1) members
  | _ => True

/-- Items that are read as their trees. -/
def ItemsFitAt (level : Nat) : List Value → Prop
  | [] => True
  | v :: rest => v.FitsAt level ∧ ItemsFitAt level rest

/-- Members whose values are read as their trees. -/
def MembersFitAt (level : Nat) : List (String × Value) → Prop
  | [] => True
  | (_, v) :: rest => v.FitsAt level ∧ MembersFitAt level rest

end

end

theorem nodes_eq (f : Number → Number) (items : List Value) :
    nodes f items = items.map (node f) := by
  induction items with
  | nil => rw [nodes, List.map_nil]
  | cons v rest ih => rw [nodes, ih, List.map_cons]

theorem memberNodes_eq (f : Number → Number) (members : List (String × Value)) :
    memberNodes f members = members.map fun (k, v) => (.ok k, v.node f) := by
  induction members with
  | nil => rw [memberNodes, List.map_nil]
  | cons m rest ih => rw [memberNodes, ih, List.map_cons]

theorem itemsFitAt_iff {f : Number → Number} {level : Nat} {items : List Value} :
    ItemsFitAt f level items ↔ ∀ v ∈ items, v.FitsAt f level := by
  induction items with
  | nil => simp [ItemsFitAt]
  | cons v rest ih => rw [ItemsFitAt, ih, List.forall_mem_cons]

theorem membersFitAt_iff {f : Number → Number} {level : Nat} {members : List (String × Value)} :
    MembersFitAt f level members ↔ ∀ m ∈ members, m.2.FitsAt f level := by
  induction members with
  | nil => simp [MembersFitAt]
  | cons m rest ih => rw [MembersFitAt, ih, List.forall_mem_cons]

end Value

namespace Value

variable (f : Number → Number)

mutual

/-- The tree of a value has no fault. -/
theorem exists_value_node (v : Value) : ∃ w, (v.node f).value = .ok w := by
  match v with
  | .null => exact ⟨.null, rfl⟩
  | .bool b => exact ⟨.bool b, rfl⟩
  | .number n => exact ⟨.number (f n), rfl⟩
  | .string s => exact ⟨.string s, rfl⟩
  | .array items =>
    obtain ⟨ws, hws⟩ := exists_itemValues_nodes items
    refine ⟨.array ws, ?_⟩
    rw [node, Node.value, hws]
    rfl
  | .object members =>
    obtain ⟨ws, hws⟩ := exists_memberValues_memberNodes members
    refine ⟨.object (sortMembers ws), ?_⟩
    rw [node, Node.value, hws]
    rfl

theorem exists_itemValues_nodes (items : List Value) :
    ∃ ws, Node.itemValues (nodes f items) = .ok ws := by
  match items with
  | [] => exact ⟨[], rfl⟩
  | v :: rest =>
    obtain ⟨w, hw⟩ := exists_value_node v
    obtain ⟨ws, hws⟩ := exists_itemValues_nodes rest
    refine ⟨w :: ws, ?_⟩
    rw [nodes, Node.itemValues, hw, hws]
    rfl

theorem exists_memberValues_memberNodes (members : List (String × Value)) :
    ∃ ws, Node.memberValues (memberNodes f members) = .ok ws := by
  match members with
  | [] => exact ⟨[], rfl⟩
  | (k, v) :: rest =>
    obtain ⟨w, hw⟩ := exists_value_node v
    obtain ⟨ws, hws⟩ := exists_memberValues_memberNodes rest
    refine ⟨(k, w) :: ws, ?_⟩
    rw [memberNodes, Node.memberValues, hw, hws]
    rfl

end

end Value

namespace Value

variable {f : Number → Number}

mutual

/-- A value that is read as its tree has a text. -/
theorem FitsAt.fault?_eq_none {level : Nat} (v : Value) (h : v.FitsAt f level) :
    v.fault? = none := by
  match v with
  | .null | .bool _ | .string _ => rfl
  | .number n => exact Number.ReadsAs.fault?_eq_none h
  | .array items => exact FitsAt.itemsFault?_eq_none items h.2
  | .object members => exact FitsAt.membersFault?_eq_none members h.2

theorem FitsAt.itemsFault?_eq_none {level : Nat} (items : List Value)
    (h : ItemsFitAt f level items) : itemsFault? items = none := by
  match items with
  | [] => rfl
  | v :: rest =>
    rw [itemsFault?, FitsAt.fault?_eq_none v h.1, Option.none_or]
    exact FitsAt.itemsFault?_eq_none rest h.2

theorem FitsAt.membersFault?_eq_none {level : Nat} (members : List (String × Value))
    (h : MembersFitAt f level members) : membersFault? members = none := by
  match members with
  | [] => rfl
  | (_, v) :: rest =>
    rw [membersFault?, FitsAt.fault?_eq_none v h.1, Option.none_or]
    exact FitsAt.membersFault?_eq_none rest h.2

end

/-- In every layout it is written. -/
theorem FitsAt.render_eq {level : Nat} {v : Value} (h : v.FitsAt f level) (l : Layout) :
    v.render l = .ok (v.write l 0) :=
  render_of_fault?_eq_none (FitsAt.fault?_eq_none v h) l

end Value

/-! ## Section 3: One step of the reader -/

theorem depthFault_eq_none {level : Nat} (h : level < depthLimit) (cs : List Char) :
    depthFault level cs = none := by
  unfold depthFault
  rw [if_neg (Nat.not_le.mpr h)]

theorem quote_append (cs rest : List Char) :
    quote cs ++ rest = '"' :: (cs.flatMap escapeChar ++ '"' :: rest) := by
  simp [quote]

theorem Number.ReadsAs.write_ne_nil {n m : Number} (h : n.ReadsAs m) : n.write ≠ [] := by
  intro hnil
  have hread := h 0 0 [] (fun c hc => by cases hc)
  rw [hnil, readValue] at hread
  cases hread

section Steps

variable {fuel level : Nat} {text after : List Char} {tree : Node} {s gap : List Char}

section

variable (h : readValue fuel level text = (tree, .ok after))

include h

/-- Blanks in front of a value do not count. -/
theorem readValue_skipBlanks {cs : List Char} (hcs : skipBlanks cs = skipBlanks text) :
    readValue fuel level cs = (tree, .ok after) := by
  cases fuel with
  | zero =>
    rw [readValue] at h
    cases h
  | succ fuel =>
    rw [readValue] at h ⊢
    rw [hcs]
    exact h

/-- A value that was read does not start with a closing bracket. -/
theorem exists_skipBlanks_eq_cons : ∃ c cs, skipBlanks text = c :: cs ∧ c ≠ ']' := by
  cases fuel with
  | zero =>
    rw [readValue] at h
    cases h
  | succ fuel =>
    rw [readValue] at h
    cases hskip : skipBlanks text with
    | nil =>
      rw [hskip] at h
      cases h
    | cons c cs =>
      refine ⟨c, cs, rfl, ?_⟩
      rintro rfl
      rw [hskip] at h
      cases h

variable (hs : ∀ c ∈ s, isSpace c)

include hs

/-- The first item of an array. -/
theorem readItems_first :
    readItems (fuel + 1) level true (s ++ text) =
      (tree :: (readItems fuel level false after).1, (readItems fuel level false after).2) := by
  obtain ⟨c, cs, hskip, hne⟩ := exists_skipBlanks_eq_cons h
  have hread : readValue fuel level (c :: cs) = (tree, .ok after) :=
    readValue_skipBlanks h (by rw [← hskip, skipBlanks_skipBlanks])
  rw [readItems, skipBlanks_append hs, hskip]
  split
  · next heq => cases heq
  · next heq => exact absurd (List.cons.inj heq).1 hne
  · next heq =>
    obtain ⟨rfl, rfl⟩ := List.cons.inj heq
    simp only [if_true, hread]

/-- Another item of an array, behind a comma. -/
theorem readItems_next :
    readItems (fuel + 1) level false (',' :: (s ++ text)) =
      (tree :: (readItems fuel level false after).1, (readItems fuel level false after).2) := by
  rw [← readItems_first h hs]
  obtain ⟨c, cs, hskip, hne⟩ := exists_skipBlanks_eq_cons h
  have hcomma : skipBlanks (',' :: (s ++ text)) = ',' :: (s ++ text) := skipBlanks_cons rfl _
  rw [readItems, hcomma, readItems, skipBlanks_append hs, hskip]
  split
  · next heq => cases heq
  · next heq => exact absurd (List.cons.inj heq).1 (by decide)
  · next heq =>
    obtain ⟨rfl, rfl⟩ := List.cons.inj heq
    rw [if_neg (by decide), if_neg (by decide), skipBlanks_append hs, hskip]
    split
    · next heq => cases heq
    · next heq => exact absurd (List.cons.inj heq).1 hne
    · rw [if_pos rfl]

variable (hgap : ∀ c ∈ gap, isSpace c) (key : String)

include hgap

/-- The first member of an object. -/
theorem readMembers_first :
    readMembers (fuel + 1) level true (s ++ (quote key.toList ++ ':' :: (gap ++ text))) =
      ((.ok key, tree) :: (readMembers fuel level false after).1,
        (readMembers fuel level false after).2) := by
  have hread := readValue_skipBlanks h (skipBlanks_append hgap text)
  have hkey := readString_quoted key.toList (':' :: (gap ++ text))
  have hcolon : skipBlanks (':' :: (gap ++ text)) = ':' :: (gap ++ text) := skipBlanks_cons rfl _
  rw [quote_append, readMembers, skipBlanks_append hs, skipBlanks_cons rfl]
  split
  · next heq => cases heq
  · next heq => exact absurd (List.cons.inj heq).1 (by decide)
  · next heq =>
    obtain ⟨rfl, rfl⟩ := List.cons.inj heq
    simp only [if_true, hkey, hcolon, hread, Except.map, String.ofList_toList]

/-- Another member of an object, behind a comma. -/
theorem readMembers_next :
    readMembers (fuel + 1) level false
        (',' :: (s ++ (quote key.toList ++ ':' :: (gap ++ text)))) =
      ((.ok key, tree) :: (readMembers fuel level false after).1,
        (readMembers fuel level false after).2) := by
  rw [← readMembers_first h hs hgap key]
  have hstart : skipBlanks (s ++ (quote key.toList ++ ':' :: (gap ++ text))) =
      quote key.toList ++ ':' :: (gap ++ text) := by
    rw [skipBlanks_append hs, quote_append, skipBlanks_cons rfl]
  rw [readMembers, skipBlanks_cons rfl, readMembers, hstart]
  split
  · next heq => cases heq
  · next heq => exact absurd (List.cons.inj heq).1 (by decide)
  · next heq =>
    obtain ⟨rfl, rfl⟩ := List.cons.inj heq
    rw [if_neg (by decide), if_neg (by decide), hstart, quote_append]
    rfl

end

theorem readItems_end (first : Bool) {s : List Char} (hs : ∀ c ∈ s, isSpace c) :
    readItems (fuel + 1) level first (s ++ ']' :: after) = ([], .ok after) := by
  rw [readItems, skipBlanks_append hs, skipBlanks_cons rfl]
  rfl

theorem readMembers_end (first : Bool) {s : List Char} (hs : ∀ c ∈ s, isSpace c) :
    readMembers (fuel + 1) level first (s ++ '\x7d' :: after) = ([], .ok after) := by
  rw [readMembers, skipBlanks_append hs, skipBlanks_cons rfl]
  rfl

/-- An array that is not nested too deeply and ends. -/
theorem readValue_array {items : List Node} {cs : List Char} (hlevel : level < depthLimit)
    (h : readItems fuel (level + 1) true cs = (items, .ok after)) :
    readValue (fuel + 1) level ('[' :: cs) = (.array none items none, .ok after) := by
  rw [readValue, skipBlanks_cons rfl]
  simp only [h, depthFault_eq_none hlevel, endingOf]

/-- An object that is not nested too deeply and ends. -/
theorem readValue_object {members : List (Except Fault String × Node)} {cs : List Char}
    (hlevel : level < depthLimit)
    (h : readMembers fuel (level + 1) true cs = (members, .ok after)) :
    readValue (fuel + 1) level ('\x7b' :: cs) = (.object none members none, .ok after) := by
  rw [readValue, skipBlanks_cons rfl]
  simp only [h, depthFault_eq_none hlevel, endingOf]

theorem readValue_quote (key : String) :
    readValue (fuel + 1) level (quote key.toList ++ after) = (.string (.ok key), .ok after) := by
  rw [quote_append, readValue, skipBlanks_cons rfl]
  show readStringNode _ = _
  rw [readStringNode, readString_quoted]
  simp only [Except.map, String.ofList_toList]

end Steps

/-! ## Section 4: Whole values -/

namespace Value

section

variable (l : Layout) (level : Nat)

theorem length_writeItems_pos (items : List Value) : 0 < (writeItems l level items).length := by
  cases items <;> simp [writeItems]

theorem length_writeMembers_pos (members : List (String × Value)) :
    0 < (writeMembers l level members).length := by
  cases members <;> simp [writeMembers]

theorem length_write_pos {f : Number → Number} (v : Value) (h : v.FitsAt f level) :
    0 < (v.write l level).length := by
  cases v with
  | null => simp [write]
  | bool b => cases b <;> simp [write]
  | number n =>
    rw [FitsAt] at h
    rw [write]
    exact List.length_pos_of_ne_nil h.write_ne_nil
  | string s => simp [write, quote]
  | array items => cases items <;> simp [write]
  | object members => cases members <;> simp [write]

end

variable {l : Layout} (hl : l.IsBlank)

include hl

theorem stopsNumeral_writeItems (level : Nat) (items : List Value) (rest : List Char) :
    StopsNumeral (writeItems l level items ++ rest) := by
  cases items with
  | nil =>
    rw [writeItems, List.append_assoc]
    exact stopsNumeral_append (hl.lineBreak level) (by decide) rest
  | cons v items =>
    rw [writeItems]
    exact stopsNumeral_append (s := []) (by simp) (by decide) _

theorem stopsNumeral_writeMembers (level : Nat) (members : List (String × Value))
    (rest : List Char) : StopsNumeral (writeMembers l level members ++ rest) := by
  cases members with
  | nil =>
    rw [writeMembers, List.append_assoc]
    exact stopsNumeral_append (hl.lineBreak level) (by decide) rest
  | cons m members =>
    rw [writeMembers]
    exact stopsNumeral_append (s := []) (by simp) (by decide) _

variable {f : Number → Number}

mutual

/-- The text of a value is read as the tree of the value, up to its last character. -/
theorem readValue_write (v : Value) (fuel level : Nat) (rest : List Char)
    (hfit : v.FitsAt f level) (hfuel : 2 * (v.write l level).length ≤ fuel + 1)
    (hrest : StopsNumeral rest) :
    readValue fuel level (v.write l level ++ rest) = (v.node f, .ok rest) := by
  have hlength := length_write_pos l level v hfit
  obtain ⟨fuel, rfl⟩ : ∃ k, fuel = k + 1 := Nat.exists_eq_add_of_le' (by omega)
  match v with
  | .null =>
    rw [write, readValue, node]
    rfl
  | .bool true =>
    rw [write, readValue, node]
    rfl
  | .bool false =>
    rw [write, readValue, node]
    rfl
  | .number n =>
    rw [FitsAt] at hfit
    rw [write, hfit fuel level rest hrest, node]
  | .string s => rw [write, readValue_quote, node]
  | .array [] =>
    rw [FitsAt] at hfit
    rw [write, List.length_cons, List.length_singleton] at hfuel
    obtain ⟨fuel, rfl⟩ : ∃ k, fuel = k + 1 := Nat.exists_eq_add_of_le' (by omega)
    have hend : readItems (fuel + 1) (level + 1) true ([] ++ ']' :: rest) = ([], .ok rest) :=
      readItems_end true (by simp)
    rw [write, node, nodes]
    exact readValue_array hfit.1 hend
  | .array (v :: items) =>
    rw [FitsAt, ItemsFitAt] at hfit
    obtain ⟨hlevel, hv, hitems⟩ := hfit
    rw [write] at hfuel
    simp only [List.length_cons, List.length_append] at hfuel
    have hpos := length_writeItems_pos l level items
    obtain ⟨fuel, rfl⟩ : ∃ k, fuel = k + 1 := Nat.exists_eq_add_of_le' (by omega)
    have hread := readValue_write v fuel (level + 1) (writeItems l level items ++ rest) hv
      (by omega) (stopsNumeral_writeItems hl level items rest)
    have hnext := readItems_write items fuel level rest hitems (by omega)
    have hfirst := readItems_first hread (hl.lineBreak (level + 1))
    rw [hnext] at hfirst
    rw [write, node, nodes]
    simpa only [List.cons_append, List.append_assoc] using readValue_array hlevel hfirst
  | .object [] =>
    rw [FitsAt] at hfit
    rw [write, List.length_cons, List.length_singleton] at hfuel
    obtain ⟨fuel, rfl⟩ : ∃ k, fuel = k + 1 := Nat.exists_eq_add_of_le' (by omega)
    have hend : readMembers (fuel + 1) (level + 1) true ([] ++ '\x7d' :: rest) = ([], .ok rest) :=
      readMembers_end true (by simp)
    rw [write, node, memberNodes]
    exact readValue_object hfit.1 hend
  | .object ((k, v) :: members) =>
    rw [FitsAt, MembersFitAt] at hfit
    obtain ⟨hlevel, hv, hmembers⟩ := hfit
    rw [write] at hfuel
    simp only [List.length_cons, List.length_append] at hfuel
    have hpos := length_writeMembers_pos l level members
    obtain ⟨fuel, rfl⟩ : ∃ k, fuel = k + 1 := Nat.exists_eq_add_of_le' (by omega)
    have hread := readValue_write v fuel (level + 1) (writeMembers l level members ++ rest) hv
      (by omega) (stopsNumeral_writeMembers hl level members rest)
    have hnext := readMembers_write members fuel level rest hmembers (by omega)
    have hfirst := readMembers_first hread (hl.lineBreak (level + 1)) hl.colonGap k
    rw [hnext] at hfirst
    rw [write, node, memberNodes]
    simpa only [List.cons_append, List.append_assoc] using readValue_object hlevel hfirst

/-- What follows the first item is read as the trees of the items. -/
theorem readItems_write (items : List Value) (fuel level : Nat) (rest : List Char)
    (hfit : ItemsFitAt f (level + 1) items)
    (hfuel : 2 * (writeItems l level items).length ≤ fuel + 1) :
    readItems fuel (level + 1) false (writeItems l level items ++ rest) =
      (nodes f items, .ok rest) := by
  match items with
  | [] =>
    rw [writeItems] at hfuel ⊢
    rw [List.length_append, List.length_singleton] at hfuel
    obtain ⟨fuel, rfl⟩ : ∃ k, fuel = k + 1 := Nat.exists_eq_add_of_le' (by omega)
    rw [List.append_assoc, List.singleton_append, readItems_end false (hl.lineBreak level), nodes]
  | v :: items =>
    rw [ItemsFitAt] at hfit
    rw [writeItems] at hfuel ⊢
    simp only [List.length_cons, List.length_append] at hfuel
    obtain ⟨fuel, rfl⟩ : ∃ k, fuel = k + 1 := Nat.exists_eq_add_of_le' (by omega)
    have hread := readValue_write v fuel (level + 1) (writeItems l level items ++ rest) hfit.1
      (by omega) (stopsNumeral_writeItems hl level items rest)
    have hnext := readItems_write items fuel level rest hfit.2 (by omega)
    have hitem := readItems_next hread (hl.lineBreak (level + 1))
    rw [hnext] at hitem
    simpa only [List.cons_append, List.append_assoc, nodes] using hitem

/-- What follows the first member is read as the keys and the trees of the members. -/
theorem readMembers_write (members : List (String × Value)) (fuel level : Nat)
    (rest : List Char) (hfit : MembersFitAt f (level + 1) members)
    (hfuel : 2 * (writeMembers l level members).length ≤ fuel + 1) :
    readMembers fuel (level + 1) false (writeMembers l level members ++ rest) =
      (memberNodes f members, .ok rest) := by
  match members with
  | [] =>
    rw [writeMembers] at hfuel ⊢
    rw [List.length_append, List.length_singleton] at hfuel
    obtain ⟨fuel, rfl⟩ : ∃ k, fuel = k + 1 := Nat.exists_eq_add_of_le' (by omega)
    rw [List.append_assoc, List.singleton_append, readMembers_end false (hl.lineBreak level),
      memberNodes]
  | (k, v) :: members =>
    rw [MembersFitAt] at hfit
    rw [writeMembers] at hfuel ⊢
    simp only [List.length_cons, List.length_append] at hfuel
    obtain ⟨fuel, rfl⟩ : ∃ k, fuel = k + 1 := Nat.exists_eq_add_of_le' (by omega)
    have hread := readValue_write v fuel (level + 1) (writeMembers l level members ++ rest)
      hfit.1 (by omega) (stopsNumeral_writeMembers hl level members rest)
    have hnext := readMembers_write members fuel level rest hfit.2 (by omega)
    have hmember := readMembers_next hread (hl.lineBreak (level + 1)) hl.colonGap k
    rw [hnext] at hmember
    simpa only [List.cons_append, List.append_assoc, memberNodes] using hmember

end

/-- A text that was written is read as the tree of its value, and nothing but the blanks
    behind it is left. -/
theorem read_write {v : Value} (hfit : v.FitsAt f 0) {s : List Char} (hs : ∀ c ∈ s, isSpace c) :
    Document.read (v.write l 0 ++ s) = ⟨v.node f, none⟩ := by
  have hfuel : 2 * (v.write l 0).length ≤ 2 * (v.write l 0 ++ s).length + 2 + 1 := by
    rw [List.length_append]
    omega
  have hread := readValue_write hl v _ 0 s hfit hfuel (stopsNumeral_of_isSpace hs)
  have hskip := skipBlanks_append hs []
  rw [List.append_nil] at hskip
  rw [Document.read, hread]
  simp only [hskip]
  rfl

/-- A text that was written is one JSON text, with blanks behind it or without. -/
theorem exists_parse_write {v : Value} (hfit : v.FitsAt f 0) {s : List Char}
    (hs : ∀ c ∈ s, isSpace c) : ∃ w, Value.parse (v.write l 0 ++ s) = .ok w := by
  obtain ⟨w, hw⟩ := exists_value_node f v
  refine ⟨w, ?_⟩
  rw [Value.parse, read_write hl hfit hs]
  simp only [hw, bind, Except.bind, refuse]
  rfl

end Value

end SimSweep.Json
