import NodeSchema.Proofs.NameOrder
import NodeSchema.Proofs.Occurrences
/-!
# The order of the fields of a kind

The fields of a kind are listed with the keys of the builder first. A key may be repeated; it counts
where it stands last, as in a table of positions that is filled from the first key to the last. All
other fields follow by name. So the list is the one that sorting by these two criteria gives, and it
does not depend on the order in which the fields came in.

* `LastAt` — where an item of a list stands last.
* `pairwise_lastOccurrences` — distinct items in the order of their last occurrences.
* `NodeKind.place?_eq_some_iff` — what the table of positions says.
* `NodeKind.orderedFields_eq_mergeSort` — the list as a sorted one.
* `NodeKind.fields_follow_builder_keys` — all of it.
-/

namespace NodeSchema

/-! ## 1. Last occurrences -/

/-- `LastAt l i a` — the item stands at this position of the list, and at none after it. -/
def LastAt (l : List String) (i : Nat) (a : String) : Prop :=
  l[i]? = some a ∧ ∀ j, i < j → l[j]? ≠ some a

namespace LastAt

variable {l : List String} {a b : String} {i : Nat}

theorem mem (h : LastAt l i a) : a ∈ l := List.mem_of_getElem? h.1

/-- One item stands at a position. -/
theorem item_eq (ha : LastAt l i a) (hb : LastAt l i b) : a = b :=
  Option.some.inj (ha.1.symm.trans hb.1)

theorem zero (h : a ∉ l) : LastAt (a :: l) 0 a := by
  refine ⟨rfl, fun j hj hat => h ?_⟩
  obtain ⟨j, rfl⟩ := Nat.exists_eq_succ_of_ne_zero (Nat.ne_of_gt hj)
  exact List.mem_of_getElem? hat

theorem succ (h : LastAt l i a) : LastAt (b :: l) (i + 1) a := by
  refine ⟨h.1, fun j hj => ?_⟩
  obtain ⟨j, rfl⟩ := Nat.exists_eq_succ_of_ne_zero (Nat.ne_zero_of_lt hj)
  exact h.2 j (Nat.lt_of_succ_lt_succ hj)

theorem exists_of_mem (h : a ∈ l) : ∃ i, LastAt l i a := by
  induction l with
  | nil => cases h
  | cons b rest ih =>
    by_cases hrest : a ∈ rest
    · obtain ⟨i, hi⟩ := ih hrest
      exact ⟨i + 1, hi.succ⟩
    · obtain rfl : a = b := (List.mem_cons.mp h).resolve_right hrest
      exact ⟨0, .zero hrest⟩

end LastAt

/-- `LastBefore l a b` — the last occurrence of the first item comes before that of the second. -/
def LastBefore (l : List String) (a b : String) : Prop :=
  ∃ i j, LastAt l i a ∧ LastAt l j b ∧ i < j

/-- The items of a list, in the order in which they stand for the last time. -/
theorem pairwise_lastOccurrences (l : List String) :
    (lastOccurrences l).Pairwise (LastBefore l) := by
  induction l with
  | nil => exact .nil
  | cons a rest ih =>
    have hrest : (lastOccurrences rest).Pairwise (LastBefore (a :: rest)) := by
      refine ih.imp ?_
      rintro b c ⟨i, j, hi, hj, hlt⟩
      exact ⟨i + 1, j + 1, hi.succ, hj.succ, Nat.succ_lt_succ hlt⟩
    unfold lastOccurrences
    split
    · exact hrest
    · next ha =>
      refine List.pairwise_cons.mpr ⟨fun b hb => ?_, hrest⟩
      obtain ⟨j, hj⟩ := LastAt.exists_of_mem (mem_lastOccurrences.mp hb)
      exact ⟨0, j + 1, .zero ha, hj.succ, Nat.succ_pos j⟩

example : lastOccurrences ["key", "body", "key", "params"] = ["body", "key", "params"] := by decide

/-- Without repetitions every occurrence is the last one. -/
theorem lastOccurrences_of_nodup {l : List String} (h : l.Nodup) : lastOccurrences l = l := by
  induction l with
  | nil => rfl
  | cons a rest ih =>
    obtain ⟨ha, hrest⟩ := List.nodup_cons.mp h
    rw [lastOccurrences, if_neg ha, ih hrest]

/-! ## 2. The table of positions -/

section

variable {l : List String} {a : String}

/-- The entries for an item are the positions at which it stands. -/
theorem mem_positions {e : String × Nat} :
    e ∈ l.zipIdx.filter (·.1 = a) ↔ e.1 = a ∧ l[e.2]? = some a := by
  rw [List.mem_filter, List.mem_zipIdx_iff_getElem?, decide_eq_true_eq, and_comm]
  exact and_congr_right fun h => by rw [h]

theorem pairwise_positions : (l.zipIdx.filter (·.1 = a)).Pairwise fun p q => p.2 < q.2 := by
  have hpositions : (l.zipIdx.map Prod.snd).Pairwise (· < ·) := by
    rw [List.zipIdx_map_snd]
    exact List.pairwise_lt_range'
  exact (List.pairwise_map.mp hpositions).filter _

end

namespace NodeKind

/-- The position of a name among the keys of the builder, as a table has it that is filled from the
first key to the last. -/
def place? (k : NodeKind) (name : String) : Option Nat :=
  (Table.ofList k.builderKeys.zipIdx).get? name

variable {k : NodeKind} {name : String}

/-- The place of a builder key is the last one where it stands. -/
theorem place?_eq_some_iff {i : Nat} : k.place? name = some i ↔ LastAt k.builderKeys i name := by
  rw [place?, Table.get?_ofList]
  constructor
  · intro h
    obtain ⟨e, hlast, rfl⟩ := Option.map_eq_some_iff.mp h
    refine ⟨(mem_positions.mp (List.mem_of_getLast? hlast)).2, fun j hlt hat => ?_⟩
    have hentry : (name, j) ∈ k.builderKeys.zipIdx.filter (·.1 = name) :=
      mem_positions.mpr ⟨rfl, hat⟩
    rcases rel_getLast? pairwise_positions hlast hentry with rfl | hbefore
    · exact Nat.lt_irrefl _ hlt
    · exact Nat.lt_asymm hlt hbefore
  · rintro ⟨hat, hnone⟩
    have hlast : (k.builderKeys.zipIdx.filter (·.1 = name)).getLast? = some (name, i) := by
      refine getLast?_of_pairwise pairwise_positions (mem_positions.mpr ⟨rfl, hat⟩) fun e he hlt => ?_
      exact hnone e.2 hlt (mem_positions.mp he).2
    rw [hlast]
    rfl

theorem place?_eq_none_iff : k.place? name = none ↔ name ∉ k.builderKeys := by
  constructor
  · intro h hmem
    obtain ⟨i, hi⟩ := LastAt.exists_of_mem hmem
    rw [place?_eq_some_iff.mpr hi] at h
    cases h
  · intro h
    refine Option.eq_none_iff_forall_ne_some.mpr fun i hi => h ?_
    exact (place?_eq_some_iff.mp hi).mem

/-! ## 3. The fields as a sorted list -/

/-- Whether a field comes no later than another one. The keys of the builder come first, by their
positions; all others are compared by name. -/
def comesFirst (k : NodeKind) (a b : String) : Bool :=
  match k.place? a, k.place? b with
  | some i, some j => i ≤ j
  | some _, none => true
  | none, some _ => false
  | none, none => a ≤ b

theorem comesFirst_trans (a b c : String) :
    k.comesFirst a b = true → k.comesFirst b c = true → k.comesFirst a c = true := by
  unfold comesFirst
  cases k.place? a <;> cases k.place? b <;> cases k.place? c <;> simp
  · exact String.le_trans
  · exact Nat.le_trans

theorem comesFirst_total (a b : String) : (k.comesFirst a b || k.comesFirst b a) = true := by
  unfold comesFirst
  cases k.place? a <;> cases k.place? b <;> simp
  · exact String.le_total a b
  · exact Nat.le_total _ _

/-- Two fields that come no later than each other are one. -/
theorem comesFirst_antisymm {a b : String} (hab : k.comesFirst a b = true)
    (hba : k.comesFirst b a = true) : a = b := by
  unfold comesFirst at hab hba
  cases ha : k.place? a with
  | none =>
    cases hb : k.place? b with
    | none =>
      rw [ha, hb] at hab hba
      exact String.le_antisymm (of_decide_eq_true hab) (of_decide_eq_true hba)
    | some j => simp [ha, hb] at hab
  | some i =>
    cases hb : k.place? b with
    | none => simp [ha, hb] at hba
    | some j =>
      rw [ha, hb] at hab hba
      obtain rfl : i = j := Nat.le_antisymm (of_decide_eq_true hab) (of_decide_eq_true hba)
      exact (place?_eq_some_iff.mp ha).item_eq (place?_eq_some_iff.mp hb)

/-- Among builder keys the last places decide. -/
theorem comesFirst_of_lastBefore {a b : String} (h : LastBefore k.builderKeys a b) :
    k.comesFirst a b = true := by
  obtain ⟨i, j, hi, hj, hlt⟩ := h
  simp [comesFirst, place?_eq_some_iff.mpr hi, place?_eq_some_iff.mpr hj, Nat.le_of_lt hlt]

/-- A builder key comes before any field that is none. -/
theorem comesFirst_of_key {a b : String} (ha : a ∈ k.builderKeys) (hb : b ∉ k.builderKeys) :
    k.comesFirst a b = true := by
  obtain ⟨i, hi⟩ := LastAt.exists_of_mem ha
  simp [comesFirst, place?_eq_some_iff.mpr hi, place?_eq_none_iff.mpr hb]

/-- Among the other fields the names decide. -/
theorem comesFirst_of_le {a b : String} (ha : a ∉ k.builderKeys) (hb : b ∉ k.builderKeys)
    (h : a ≤ b) : k.comesFirst a b = true := by
  simp [comesFirst, place?_eq_none_iff.mpr ha, place?_eq_none_iff.mpr hb, h]

/-- The fields that the builder does not take, by name. -/
def otherFields (k : NodeKind) : List String := sortNames (k.fields.keys.filter (· ∉ k.builderKeys))

theorem mem_otherFields :
    name ∈ k.otherFields ↔ name ∈ k.fields.keys ∧ name ∉ k.builderKeys := by
  simp [otherFields]

theorem pairwise_lt_otherFields (k : NodeKind) : k.otherFields.Pairwise (· < ·) :=
  pairwise_lt_sortNames (k.fields.nodup_keys.filter _)

/-- The fields of a kind stand in this order. -/
theorem pairwise_comesFirst_orderedFields (k : NodeKind) :
    k.orderedFields.Pairwise fun a b => k.comesFirst a b = true := by
  refine List.pairwise_append.mpr ⟨?_, ?_, ?_⟩
  · exact (pairwise_lastOccurrences k.builderKeys).imp comesFirst_of_lastBefore
  · refine k.pairwise_lt_otherFields.imp_of_mem fun {a b} ha hb hlt => ?_
    exact comesFirst_of_le (mem_otherFields.mp ha).2 (mem_otherFields.mp hb).2 (Std.le_of_lt hlt)
  · intro a ha b hb
    exact comesFirst_of_key (mem_lastOccurrences.mp ha) (mem_otherFields.mp hb).2

/-- No field is lost and none comes twice. -/
theorem orderedFields_perm (k : NodeKind) : k.orderedFields.Perm k.fields.keys :=
  (List.perm_ext_iff_of_nodup k.nodup_orderedFields k.fields.nodup_keys).mpr fun _ =>
    mem_orderedFields

/-- The fields in order are the fields, sorted: there is one list of them that is in order. -/
theorem orderedFields_eq_mergeSort (k : NodeKind) :
    k.orderedFields = k.fields.keys.mergeSort k.comesFirst := by
  have hsorted : (k.fields.keys.mergeSort k.comesFirst).Pairwise fun a b =>
      k.comesFirst a b = true := List.pairwise_mergeSort comesFirst_trans comesFirst_total _
  have hperm := k.orderedFields_perm.trans (List.mergeSort_perm k.fields.keys k.comesFirst).symm
  exact hperm.eq_of_pairwise (fun _ _ _ _ => comesFirst_antisymm)
    k.pairwise_comesFirst_orderedFields hsorted

/-! ## 4. The main statement -/

/-- `FieldOrder k keys others` — the distinct keys of the builder, in the order of their last
occurrences, and all other fields, strictly by name. -/
structure FieldOrder (k : NodeKind) (keys others : List String) : Prop where
  mem_keys : ∀ name, name ∈ keys ↔ name ∈ k.builderKeys
  keys_order : keys.Pairwise (LastBefore k.builderKeys)
  declared : k.builderKeys.Nodup → keys = k.builderKeys
  mem_others : ∀ name, name ∈ others ↔ name ∈ k.fields.keys ∧ name ∉ k.builderKeys
  others_order : others.Pairwise (· < ·)

/-- The order in two parts: builder keys, and then the rest. -/
theorem fieldOrder (k : NodeKind) : k.FieldOrder (lastOccurrences k.builderKeys) k.otherFields where
  mem_keys _ := mem_lastOccurrences
  keys_order := pairwise_lastOccurrences k.builderKeys
  declared := lastOccurrences_of_nodup
  mem_others _ := mem_otherFields
  others_order := k.pairwise_lt_otherFields

/-- **The fields follow the keys of the builder.** Every field is listed once: first the keys of the
builder by their last occurrences, which is as they are declared if none is repeated, then all other
fields by name. This is the list that sorting the fields gives, whichever of two fields came in
first: kinds with the same keys of the builder and the same fields in another order list them
alike. -/
theorem fields_follow_builder_keys (k : NodeKind) :
    (k.orderedFields.Nodup ∧ ∀ name, name ∈ k.orderedFields ↔ name ∈ k.fields.keys) ∧
    (∃ keys others, k.orderedFields = keys ++ others ∧ k.FieldOrder keys others) ∧
    k.orderedFields = k.fields.keys.mergeSort k.comesFirst ∧
    ∀ k' : NodeKind, k'.builderKeys = k.builderKeys →
      k.fields.entries.Perm k'.fields.entries → k'.orderedFields = k.orderedFields := by
  refine ⟨⟨k.nodup_orderedFields, fun _ => mem_orderedFields⟩, ⟨_, _, rfl, k.fieldOrder⟩,
    k.orderedFields_eq_mergeSort, fun k' hkeys hfields => ?_⟩
  exact orderedFields_congr hkeys (hfields.map Prod.fst)

end NodeKind

end NodeSchema
