import SimSweep.Proofs.Json.Reading
import SimSweep.Proofs.Log.Entry

/-! # Members under their keys

    Setting a member adds its key to the others. If the keys of some members differ
    already, sorting them only changes their order. Canonical form keeps a value as
    readable as it was.
-/

namespace SimSweep.Json.Value

variable {key : String} {v : Value} {members : List (String × Value)}

/-! ## Section 1: One member -/

theorem mem_keys_setMember {k : String} :
    k ∈ (setMember key v members).map Prod.fst ↔ k = key ∨ k ∈ members.map Prod.fst := by
  induction members with
  | nil => simp [setMember]
  | cons m rest ih =>
    rw [setMember]
    split_ifs with hlt heq
    · simp
    · simp [heq]
    · rw [List.map_cons, List.mem_cons, ih, List.map_cons, List.mem_cons]
      exact or_left_comm

/-- A member with a new key is put between the others. -/
theorem setMember_perm (h : key ∉ members.map Prod.fst) :
    (setMember key v members).Perm ((key, v) :: members) := by
  induction members with
  | nil => exact .refl _
  | cons m rest ih =>
    rw [List.map_cons, List.mem_cons, not_or] at h
    rw [setMember, if_neg h.1]
    split_ifs
    · exact .refl _
    · exact ((ih h.2).cons m).trans (.swap (key, v) m rest)

/-- What stands under a key that comes once is found. -/
theorem lookup_eq_of_mem (h : (members.map Prod.fst).Nodup) (hm : (key, v) ∈ members) :
    members.lookup key = some v := by
  induction members with
  | nil => cases hm
  | cons m rest ih =>
    rw [List.map_cons, List.nodup_cons] at h
    rcases List.mem_cons.mp hm with rfl | hm
    · rw [List.lookup_cons_self]
    · have hne : (key == m.1) = false := by
        rw [beq_eq_false_iff_ne]
        rintro rfl
        exact h.1 (List.mem_map.mpr ⟨_, hm, rfl⟩)
      rw [List.lookup_cons, hne]
      exact ih h.2 hm

theorem mem_of_lookup_eq (h : members.lookup key = some v) : (key, v) ∈ members := by
  obtain ⟨before, after, rfl, _⟩ := List.lookup_eq_some_iff.mp h
  simp

/-! ## Section 2: All members -/

theorem sortMembers_concat (members : List (String × Value)) (m : String × Value) :
    sortMembers (members ++ [m]) = setMember m.1 m.2 (sortMembers members) := by
  unfold sortMembers
  rw [List.foldl_append]
  rfl

theorem mem_sortMembers {m : String × Value} (h : m ∈ sortMembers members) : m ∈ members := by
  induction members using List.reverseRecOn with
  | nil => exact h
  | append_singleton rest m' ih =>
    rw [sortMembers_concat] at h
    rw [List.mem_append]
    exact (mem_setMember h).elim (fun heq => .inr (List.mem_singleton.mpr heq)) (.inl ∘ ih)

/-- Members of different keys are only put in order. -/
theorem sortMembers_perm (h : (members.map Prod.fst).Nodup) :
    (sortMembers members).Perm members := by
  -- from the end, as sorting sets one member after the other
  induction members using List.reverseRecOn with
  | nil => exact .refl _
  | append_singleton rest m ih =>
    rw [List.map_append, List.nodup_append] at h
    obtain ⟨hnodup, _, hdistinct⟩ := h
    have hsorted := ih hnodup
    have hnew : m.1 ∉ (sortMembers rest).map Prod.fst := by
      intro hmem
      exact hdistinct _ ((hsorted.map Prod.fst).mem_iff.mp hmem) _ (by simp) rfl
    rw [sortMembers_concat]
    exact ((setMember_perm hnew).trans (hsorted.cons m)).trans
      (List.perm_append_singleton m rest).symm

/-! ## Section 3: Canonical form -/

variable {f : Number → Number}

mutual

/-- A value that can be read can be read in canonical form. -/
theorem FitsAt.canonical {level : Nat} (v : Value) (h : v.FitsAt f level) :
    v.canonical.FitsAt f level := by
  match v with
  | .null | .bool _ | .number _ | .string _ => exact h
  | .array items => exact ⟨h.1, FitsAt.canonicalItems items h.2⟩
  | .object members =>
    refine ⟨h.1, ?_⟩
    -- sorting adds no member to those whose values are in canonical form
    have hmembers := membersFitAt_iff.mp (FitsAt.canonicalMembers members h.2)
    rw [membersFitAt_iff]
    exact fun m hm => hmembers m (mem_sortMembers hm)

theorem FitsAt.canonicalItems {level : Nat} (items : List Value)
    (h : ItemsFitAt f level items) : ItemsFitAt f level (Value.canonicalItems items) := by
  match items with
  | [] => trivial
  | v :: rest => exact ⟨FitsAt.canonical v h.1, FitsAt.canonicalItems rest h.2⟩

theorem FitsAt.canonicalMembers {level : Nat} (members : List (String × Value))
    (h : MembersFitAt f level members) :
    MembersFitAt f level (Value.canonicalMembers members) := by
  match members with
  | [] => trivial
  | (k, v) :: rest => exact ⟨FitsAt.canonical v h.1, FitsAt.canonicalMembers rest h.2⟩

end

end SimSweep.Json.Value
