import SimSweep.Number.Binary64

/-! # JSON values

    A JSON value as it is written: an object keeps its members in a given order.
    Values that are gathered under free names, such as the fields of a log entry,
    are put in canonical form, where the members of every object stand in
    increasing order of their keys.
-/

namespace SimSweep.Json

/-- A number in JSON text is a whole number of 64 bits or a binary64 number. A
    negative whole number is held by its magnitude. -/
inductive Number where
  | natural (n : Nat)
  | negative (n : Nat)
  | float (x : Binary64)
  deriving DecidableEq

/-- A JSON value. -/
inductive Value where
  | null
  | bool (b : Bool)
  | number (n : Number)
  | string (s : String)
  | array (items : List Value)
  | object (members : List (String × Value))

namespace Value

/-! ## Section 1: Values of the basic types -/

/-- A whole number. -/
def ofInt (i : Int) : Value :=
  .number (if i < 0 then .negative i.natAbs else .natural i.natAbs)

/-- A natural number. -/
def ofNat (n : Nat) : Value := .number (.natural n)

/-- A binary64 number; what is not finite has no numeral and becomes null. -/
def ofBinary64 (x : Binary64) : Value :=
  if x.isFinite then .number (.float x) else .null

/-- An optional value; its absence is null. -/
def ofOption {α : Type} (f : α → Value) : Option α → Value
  | none => .null
  | some a => f a

/-! ## Section 2: Canonical form -/

/-- Sets a member in a list in increasing order of keys, replacing a member of
    the same key. -/
def setMember (key : String) (value : Value) :
    List (String × Value) → List (String × Value)
  | [] => [(key, value)]
  | (k, v) :: rest =>
    if key < k then (key, value) :: (k, v) :: rest
    else if key = k then (key, value) :: rest
    else (k, v) :: setMember key value rest

/-- Members in increasing order of keys; the last of several with one key stays. -/
def sortMembers (members : List (String × Value)) : List (String × Value) :=
  members.foldl (fun sorted (k, v) => setMember k v sorted) []

section Members

variable {key : String} {v : Value} {members : List (String × Value)}

theorem mem_setMember {m : String × Value} (h : m ∈ setMember key v members) :
    m = (key, v) ∨ m ∈ members := by
  induction members with
  | nil => exact .inl (List.mem_singleton.mp h)
  | cons m' rest ih =>
    rw [setMember] at h
    split at h
    · exact List.mem_cons.mp h
    · split at h
      · exact (List.mem_cons.mp h).imp_right (List.mem_cons_of_mem m')
      · rcases List.mem_cons.mp h with rfl | h
        · exact .inr List.mem_cons_self
        · exact (ih h).imp_right (List.mem_cons_of_mem m')

/-- A member that was set is found, wherever it was put. -/
@[simp] theorem lookup_setMember_self (key : String) (v : Value)
    (members : List (String × Value)) : (setMember key v members).lookup key = some v := by
  induction members with
  | nil => rw [setMember, List.lookup_cons_self]
  | cons m rest ih =>
    obtain ⟨k, w⟩ := m
    rw [setMember]
    split
    · rw [List.lookup_cons_self]
    · split
      · rw [List.lookup_cons_self]
      · next heq =>
        rw [List.lookup_cons, beq_eq_false_iff_ne.mpr heq]
        exact ih

/-- The other members are what they were. -/
@[simp] theorem lookup_setMember_of_ne {other : String} (h : other ≠ key) (v : Value)
    (members : List (String × Value)) :
    (setMember key v members).lookup other = members.lookup other := by
  have hkey : (other == key) = false := beq_eq_false_iff_ne.mpr h
  induction members with
  | nil => rw [setMember, List.lookup_cons, hkey]
  | cons m rest ih =>
    obtain ⟨k, w⟩ := m
    rw [setMember]
    split
    · rw [List.lookup_cons, hkey]
    · split
      · next heq => rw [List.lookup_cons, List.lookup_cons, ← heq, hkey]
      · rw [List.lookup_cons, List.lookup_cons, ih]

/-- Members in increasing order of their keys. -/
def IsSorted (members : List (String × Value)) : Prop :=
  members.Pairwise fun m m' => m.1 < m'.1

theorem IsSorted.nodup_keys (h : IsSorted members) : (members.map Prod.fst).Nodup := by
  refine List.pairwise_map.mpr (h.imp ?_)
  intro m m' hlt heq
  rw [heq] at hlt
  exact String.lt_irrefl _ hlt

/-- The order is kept when a member is set. -/
theorem IsSorted.setMember (h : IsSorted members) (key : String) (v : Value) :
    IsSorted (setMember key v members) := by
  induction members with
  | nil => exact List.pairwise_singleton _ _
  | cons m rest ih =>
    have hsorted := List.pairwise_cons.mp h
    rw [Value.setMember]
    split
    · next hlt =>
      refine List.pairwise_cons.mpr ⟨?_, h⟩
      intro m' hm'
      rcases List.mem_cons.mp hm' with rfl | hm'
      · exact hlt
      · exact String.lt_trans hlt (hsorted.1 m' hm')
    · next hlt =>
      split
      · next heq =>
        refine List.pairwise_cons.mpr ⟨?_, hsorted.2⟩
        rw [heq]
        exact hsorted.1
      · next heq =>
        refine List.pairwise_cons.mpr ⟨?_, ih hsorted.2⟩
        intro m' hm'
        rcases mem_setMember hm' with rfl | hm'
        -- neither smaller nor equal, so the key comes behind that of the first member
        · exact (Std.lt_trichotomy key m.1).elim (absurd · hlt) (·.elim (absurd · heq) id)
        · exact hsorted.1 m' hm'

theorem isSorted_sortMembers (members : List (String × Value)) :
    IsSorted (sortMembers members) := by
  have hstep : ∀ sorted : List (String × Value), IsSorted sorted →
      IsSorted (members.foldl (fun sorted (k, v) => setMember k v sorted) sorted) := by
    induction members with
    | nil => exact fun _ h => h
    | cons m rest ih => exact fun sorted h => ih _ (h.setMember m.1 m.2)
  exact hstep [] .nil

end Members

mutual

/-- The value with the members of every object in increasing order of keys. -/
def canonical : Value → Value
  | .array items => .array (canonicalItems items)
  | .object members => .object (sortMembers (canonicalMembers members))
  | v => v

/-- The canonical form of each item. -/
def canonicalItems : List Value → List Value
  | [] => []
  | v :: rest => v.canonical :: canonicalItems rest

/-- The canonical form of each member's value. -/
def canonicalMembers : List (String × Value) → List (String × Value)
  | [] => []
  | (k, v) :: rest => (k, v.canonical) :: canonicalMembers rest

end

end Value

end SimSweep.Json
