import Mathlib.Data.List.Forall2
import SimSweep.Json.Tagged
import SimSweep.Proofs.Json.Reading

/-! # Values decoded from their own text

    A decoder *reads* a value as `a` if the text of the value can be read and the tree of
    it is decoded as `a`. For a record this follows from its fields, one by one: a record
    *takes* `a` from some members if these are its fields in order, each of them can be
    decoded, and `a` is what the record builds of them. The combinators of records keep
    this, and the reader finds the members by their keys.
-/

namespace SimSweep.Json

variable {α β : Type} {f : Number → Number} {depth : Nat}

/-- The text of a value is read where `depth` more arrays and objects may be nested, with
    numbers as `f` says, and is decoded as `a`. -/
structure Decoder.Reads (d : Decoder α) (f : Number → Number) (depth : Nat) (v : Value)
    (a : α) : Prop where
  fitsAt : ∀ level, level + depth ≤ depthLimit → v.FitsAt f level
  decode : d (v.node f) = .ok a

namespace Decoder.Reads

variable {d : Decoder α} {v : Value} {a : α}

/-- There may be more room than is needed. -/
theorem mono (h : d.Reads f depth v a) {deeper : Nat} (hle : depth ≤ deeper) :
    d.Reads f deeper v a where
  fitsAt level hlevel := h.fitsAt level (by omega)
  decode := h.decode

/-- What is decoded may be turned into something else. -/
theorem map (h : d.Reads f depth v a) (g : α → β) :
    Decoder.Reads (fun n => (d n).map g) f depth v (g a) where
  fitsAt := h.fitsAt
  decode := by
    rw [h.decode]
    rfl

/-- Wherever blanks stand in the text of a value, the text is decoded in the same way. -/
theorem parse {c : Codec α} (h : c.decode.Reads f depth v a) (hdepth : depth ≤ depthLimit)
    {l : Layout} (hl : l.IsBlank) : c.parse (v.write l 0) = .ok a := by
  have hfit : v.FitsAt f 0 := h.fitsAt 0 (by rw [Nat.zero_add]; exact hdepth)
  have hread := Value.read_write hl hfit (s := []) (by simp)
  rw [List.append_nil] at hread
  rw [Codec.parse, hread]
  simp only [h.decode, bind, Except.bind, refuse, Decoding.ofText, Except.mapError]
  rfl

end Decoder.Reads

/-! ## Section 1: Records -/

namespace Record

/-- A member is the one that a field asks for. -/
structure Answers (f : Number → Number) (field : Field) (member : String × Value) : Prop where
  name : field.name = member.1
  check : field.check (member.2.node f) = .ok ()

/-- A record builds `a` of some members, which stand in the order of its fields. -/
structure Takes (r : Record α) (f : Number → Number) (depth : Nat)
    (members : List (String × Value)) (a : α) : Prop where
  answers : List.Forall₂ (Answers f) r.fields members
  build : ∀ found : String → Option Node,
    (∀ m ∈ members, found m.1 = some (m.2.node f)) → r.build found = .ok a
  fitsAt : ∀ m ∈ members, ∀ level, level + depth ≤ depthLimit → m.2.FitsAt f level

theorem probe_eq_ok {d : Decoder α} {n : Node} {a : α} (h : d n = .ok a) :
    probe d n = .ok () := by
  unfold probe
  rw [h]
  rfl

theorem takes_pure (a : α) : (pure a : Record α).Takes f depth [] a where
  answers := .nil
  build _ _ := rfl
  fitsAt m hm := by cases hm

theorem takes_required (name : String) {d : Decoder α} {v : Value} {a : α}
    (h : d.Reads f depth v a) : (required name d).Takes f depth [(name, v)] a where
  answers := .cons ⟨rfl, probe_eq_ok h.decode⟩ .nil
  build found hfound := by
    have hname : found name = some (v.node f) := hfound (name, v) (List.mem_singleton_self _)
    unfold required
    simp only [hname, h.decode]
  fitsAt m hm := by
    rw [List.mem_singleton.mp hm]
    exact h.fitsAt

/-- The value that is taken in its absence does not matter for a field that is there. -/
theorem takes_defaulted (name : String) {d : Decoder α} (value : α) {v : Value} {a : α}
    (h : d.Reads f depth v a) : (defaulted name d value).Takes f depth [(name, v)] a where
  answers := .cons ⟨rfl, probe_eq_ok h.decode⟩ .nil
  build found hfound := by
    have hname : found name = some (v.node f) := hfound (name, v) (List.mem_singleton_self _)
    unfold defaulted
    simp only [hname, h.decode]
  fitsAt m hm := by
    rw [List.mem_singleton.mp hm]
    exact h.fitsAt

theorem takes_nullable (name : String) {d : Decoder α} {v : Value} {a : Option α}
    (h : (Decoder.nullable d).Reads f depth v a) :
    (Record.nullable name d).Takes f depth [(name, v)] a where
  answers := .cons ⟨rfl, probe_eq_ok h.decode⟩ .nil
  build found hfound := by
    have hname : found name = some (v.node f) := hfound (name, v) (List.mem_singleton_self _)
    unfold Record.nullable
    simp only [hname, h.decode]
  fitsAt m hm := by
    rw [List.mem_singleton.mp hm]
    exact h.fitsAt

namespace Takes

variable {members others : List (String × Value)}

theorem seq {r : Record (α → β)} {s : Record α} {g : α → β} {a : α}
    (hr : r.Takes f depth members g) (hs : s.Takes f depth others a) :
    (r <*> s).Takes f depth (members ++ others) (g a) where
  answers := List.rel_append hr.answers hs.answers
  build found hfound := by
    have hg := hr.build found fun m hm => hfound m (List.mem_append_left _ hm)
    have ha := hs.build found fun m hm => hfound m (List.mem_append_right _ hm)
    show (do
      let g ← r.build found
      return g (← s.build found)) = _
    rw [hg, ha]
    rfl
  fitsAt m hm := (List.mem_append.mp hm).elim (hr.fitsAt m) (hs.fitsAt m)

theorem map {s : Record α} {a : α} (g : α → β) (hs : s.Takes f depth members a) :
    (g <$> s).Takes f depth members (g a) :=
  (takes_pure g).seq hs

theorem refine {r : Record α} {a : α} {b : β} {g : α → Decoding β}
    (hr : r.Takes f depth members a) (hg : g a = .ok b) :
    (r.refine g).Takes f depth members b where
  answers := hr.answers
  build found hfound := by
    show (do g (← r.build found)) = _
    rw [hr.build found hfound]
    exact hg
  fitsAt := hr.fitsAt

end Takes

/-! ## Section 2: The search for members -/

/-- Among fields of different names the one that a member answers is found by its key. -/
theorem exists_find?_of_answers {fields : List Field} {members : List (String × Value)}
    (h : List.Forall₂ (Answers f) fields members) (hnodup : (members.map Prod.fst).Nodup) :
    ∀ m ∈ members, ∃ field, fields.find? (fun field => field.name == m.1) = some field ∧
      field.check (m.2.node f) = .ok () := by
  induction h with
  | nil => simp
  | @cons field m fields members hm _ ih =>
    rw [List.map_cons, List.nodup_cons] at hnodup
    rw [List.forall_mem_cons]
    constructor
    · exact ⟨field, List.find?_cons_of_pos (by simp [hm.name]), hm.check⟩
    · intro m' hm'
      have hne : field.name ≠ m'.1 := by
        intro heq
        refine hnodup.1 ?_
        rw [← hm.name, heq]
        exact List.mem_map_of_mem hm'
      rw [List.find?_cons_of_neg (by simpa using hne)]
      exact ih hnodup.2 m' hm'

/-- If every member answers a field and no key comes twice, all of them are found. -/
theorem findMembers_memberNodes {fields : List Field} {admitsOthers : Bool} :
    ∀ (members : List (String × Value)) (seen : List String),
      (∀ m ∈ members, ∃ field, fields.find? (fun field => field.name == m.1) = some field ∧
        field.check (m.2.node f) = .ok ()) →
      (members.map Prod.fst).Nodup → (∀ m ∈ members, m.1 ∉ seen) →
      findMembers fields admitsOthers seen (Value.memberNodes f members) =
        .ok (members.map fun (key, v) => (key, v.node f)) := by
  intro members
  induction members with
  | nil =>
    intro seen _ _ _
    rfl
  | cons m rest ih =>
    intro seen hfields hnodup hseen
    rw [List.map_cons, List.nodup_cons] at hnodup
    rw [List.forall_mem_cons] at hfields hseen
    obtain ⟨⟨field, hfind, hcheck⟩, hrest⟩ := hfields
    have hnext := ih (m.1 :: seen) hrest hnodup.2 (by
      intro m' hm'
      rw [List.mem_cons, not_or]
      exact ⟨fun heq => hnodup.1 (heq ▸ List.mem_map_of_mem hm'), hseen.2 m' hm'⟩)
    have hnew : seen.contains m.1 = false := by simpa using hseen.1
    rw [Value.memberNodes, findMembers]
    simp only [Decoding.ofText, Except.mapError, bind, Except.bind, hfind, hnew, hcheck, hnext]
    rfl

theorem lookup_of_mem {members : List (String × Value)} (hnodup : (members.map Prod.fst).Nodup) :
    ∀ m ∈ members,
      (members.map fun (key, v) => (key, v.node f)).lookup m.1 = some (m.2.node f) := by
  induction members with
  | nil => simp
  | cons m rest ih =>
    rw [List.map_cons, List.nodup_cons] at hnodup
    rw [List.forall_mem_cons, List.map_cons]
    constructor
    · rw [List.lookup_cons_self]
    · intro m' hm'
      have hne : (m'.1 == m.1) = false := by
        rw [beq_eq_false_iff_ne]
        intro heq
        exact hnodup.1 (heq ▸ List.mem_map_of_mem hm')
      rw [List.lookup_cons, hne]
      exact ih hnodup.2 m' hm'

/-- A record is decoded from the members of which it takes a value, with others admitted
    or not. -/
theorem Takes.reads {r : Record α} {members : List (String × Value)} {a : α}
    (h : r.Takes f depth members a) (hnodup : (members.map Prod.fst).Nodup)
    (admitsOthers : Bool) :
    Decoder.Reads (r.decode admitsOthers) f (depth + 1) (.object members) a where
  fitsAt level hlevel := by
    refine ⟨by omega, ?_⟩
    rw [Value.membersFitAt_iff]
    exact fun m hm => h.fitsAt m hm (level + 1) (by omega)
  decode := by
    have hfound : findMembers r.fields admitsOthers [] (Value.memberNodes f members) = _ :=
      findMembers_memberNodes members [] (exists_find?_of_answers h.answers hnodup) hnodup
        (by simp)
    have hbuild := h.build
      (fun name => (members.map fun (key, v) => (key, v.node f)).lookup name)
      (lookup_of_mem hnodup)
    rw [Value.node, Record.decode]
    simp only [hfound, refuse, Decoding.ofText, Except.mapError, bind, Except.bind]
    exact hbuild

end Record

/-! ## Section 3: Tagged records -/

namespace Tagged

variable {tag : String} {variant? : String → Option (Record α)}
  {members : List (String × Value)}

/-- Behind the tag other members are passed. -/
theorem findTag_memberNodes (r : Record α) (h : ∀ m ∈ members, m.1 ≠ tag) :
    findTag tag variant? (some r) (Value.memberNodes f members) = .ok (some r) := by
  induction members with
  | nil => rfl
  | cons m rest ih =>
    rw [List.forall_mem_cons] at h
    obtain ⟨v, hv⟩ := Value.exists_value_node f m.2
    rw [Value.memberNodes, findTag]
    simp only [Decoding.ofText, Except.mapError, bind, Except.bind, if_neg h.1, hv]
    exact ih h.2

/-- A variant is decoded from its tag and the members of which it takes a value. -/
theorem reads_variant {name : String} {r : Record α} {a : α} (hname : variant? name = some r)
    (h : ∀ m ∈ members, m.1 ≠ tag) (htakes : r.Takes f depth members a)
    (hnodup : (members.map Prod.fst).Nodup) :
    Decoder.Reads (Tagged.decode tag variant?) f (depth + 1)
      (.object ((tag, .string name) :: members)) a where
  fitsAt level hlevel := by
    have hfits := (htakes.reads hnodup true).fitsAt level hlevel
    exact ⟨hfits.1, trivial, hfits.2⟩
  decode := by
    have htag : findTag tag variant? (some r) (Value.memberNodes f members) = .ok (some r) :=
      findTag_memberNodes r h
    have hfilter : (Value.memberNodes f ((tag, .string name) :: members)).filter (isField tag) =
        Value.memberNodes f members := by
      rw [Value.memberNodes, List.filter_cons_of_neg (by simp [isField]), List.filter_eq_self,
        Value.memberNodes_eq]
      intro m hm
      obtain ⟨m', hm', rfl⟩ := List.mem_map.mp hm
      simpa [isField] using h m' hm'
    have hofName : Decoder.ofName variant? (.string (.ok name)) = .ok r := by
      rw [Decoder.ofName]
      simp only [Decoder.string, bind, Except.bind, hname]
      rfl
    have hfound : findTag tag variant? none
        (Value.memberNodes f ((tag, .string name) :: members)) = .ok (some r) := by
      rw [Value.memberNodes, Value.node, findTag]
      simp only [Decoding.ofText, Except.mapError, bind, Except.bind, if_true, hofName, htag,
        Option.isSome_none, Bool.false_eq_true, if_false]
    have hfields := (htakes.reads hnodup true).decode
    rw [Value.node, Tagged.decode, hfound, hfilter]
    simp only [refuse, Decoding.ofText, Except.mapError, bind, Except.bind]
    exact hfields

end Tagged

/-! ## Section 4: Basic types and lists -/

theorem Decoder.reads_string (s : String) : Decoder.string.Reads f 0 (.string s) s where
  fitsAt _ _ := trivial
  decode := rfl

theorem Decoder.reads_bool (b : Bool) : Decoder.bool.Reads f 0 (.bool b) b where
  fitsAt _ _ := trivial
  decode := rfl

/-- A list is read if its items are, whatever each of them is read as. -/
theorem Decoder.reads_list {d : Decoder β} {encode : α → Value} {xs : List α} {ys : List β}
    (h : List.Forall₂ (fun x y => d.Reads f depth (encode x) y) xs ys) :
    (Decoder.list d).Reads f (depth + 1) (.array (xs.map encode)) ys where
  fitsAt level hlevel := by
    have hitems : ∀ x ∈ xs, (encode x).FitsAt f (level + 1) := by
      induction h with
      | nil => simp
      | cons hread _ ih =>
        rw [List.forall_mem_cons]
        exact ⟨hread.fitsAt (level + 1) (by omega), ih⟩
    refine ⟨by omega, ?_⟩
    rw [Value.itemsFitAt_iff, List.forall_mem_map]
    exact hitems
  decode := by
    have hitems : (xs.map (Value.node f ∘ encode)).mapM d = .ok ys := by
      induction h with
      | nil => rfl
      | cons hread _ ih =>
        rw [List.map_cons, List.mapM_cons, Function.comp_apply, hread.decode, ih]
        rfl
    rw [Value.node, Value.nodes_eq, List.map_map, Decoder.list, hitems]
    rfl

/-- A list is read back if its items are. -/
theorem Codec.reads_list {c : Codec α} {xs : List α}
    (h : ∀ x ∈ xs, c.decode.Reads f depth (c.encode x) x) :
    (Decoder.list c.decode).Reads f (depth + 1) (.array (xs.map c.encode)) xs :=
  Decoder.reads_list (List.forall₂_same.mpr h)

/-- A whole number of 64 bits, with a sign or without, is read back. -/
theorem Number.readsAs_ofInt {i : Int} (hlo : -Nat.pow 2 63 ≤ i) (hhi : i ≤ wordLimit) :
    Number.ReadsAs (if i < 0 then .negative i.natAbs else .natural i.natAbs)
      (if i < 0 then .negative i.natAbs else .natural i.natAbs) := by
  split_ifs with hneg
  · exact Number.readsAs_negative (by omega) (by omega)
  · exact Number.readsAs_natural (by omega)

@[simp] theorem Value.ofInt_natCast (n : Nat) : Value.ofInt n = .ofNat n := by
  unfold Value.ofInt
  rw [if_neg (by omega), Int.natAbs_natCast]
  rfl

theorem Value.ofInt_fitsAt {i : Int} (hlo : -Nat.pow 2 63 ≤ i) (hhi : i ≤ wordLimit)
    (level : Nat) : (Value.ofInt i).FitsAt Number.reread level :=
  (Number.readsAs_ofInt hlo hhi).reread

/-- A whole number between the bounds of its decoder. -/
theorem Decoder.reads_intBetween (lo hi : Int) {i : Int} (hlo : lo ≤ i) (hhi : i ≤ hi)
    (hword : -Nat.pow 2 63 ≤ lo ∧ hi ≤ wordLimit) :
    (Decoder.intBetween lo hi).Reads Number.reread 0 (Value.ofInt i) i where
  fitsAt level _ := Value.ofInt_fitsAt (by omega) (by omega) level
  decode := by
    have hreads := Number.readsAs_ofInt (i := i) (by omega) (by omega)
    show Number.between lo hi (Number.reread _) = _
    rw [hreads.reread_eq]
    split_ifs with hneg
    · have habs : -(i.natAbs : Int) = i := by omega
      rw [Number.between, habs, if_pos hlo]
    · have habs : (i.natAbs : Int) = i := by omega
      rw [Number.between, habs, if_pos hhi]

end SimSweep.Json
