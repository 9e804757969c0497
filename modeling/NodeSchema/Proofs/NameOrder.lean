import Mathlib.Data.List.Nodup
import NodeSchema.Proofs.Generation
/-!
# Names, fields and kinds in order

The order in which anything is listed depends on the names alone and not on the order in which they
came in. Sorting gives every collection of names one list; from there the same follows for the
fields of a kind and for the kinds of a registry.

* `sortNames_eq_of_perm` — names in another order are sorted to the same list.
* `pairwise_lt_sortNames` — distinct names are sorted strictly.
* `NodeKind.orderedFields_congr`, `NodeKind.nodup_orderedFields` — the fields of a kind.
* `Registry.pairwise_lt_kindNames` — the kinds of a registry.
-/

namespace NodeSchema

/-! ## 1. Sorting -/

theorem insertName_perm (a : String) (l : List String) : (insertName a l).Perm (a :: l) := by
  induction l with
  | nil => exact .refl _
  | cons b rest ih =>
    unfold insertName
    split
    · exact .refl _
    · exact (ih.cons b).trans (.swap a b rest)

/-- Sorting loses no name and adds none. -/
theorem sortNames_perm (l : List String) : (sortNames l).Perm l := by
  induction l with
  | nil => exact .refl _
  | cons a rest ih => exact (insertName_perm a _).trans (ih.cons a)

/-- A name that is inserted into ascending ones leaves them ascending. -/
theorem pairwise_insertName (a : String) {l : List String} (h : l.Pairwise (· ≤ ·)) :
    (insertName a l).Pairwise (· ≤ ·) := by
  induction l with
  | nil => simp [insertName]
  | cons b rest ih =>
    obtain ⟨hb, hrest⟩ := List.pairwise_cons.mp h
    unfold insertName
    split
    · next hab =>
      refine List.pairwise_cons.mpr ⟨fun c hc => ?_, h⟩
      rcases List.mem_cons.mp hc with rfl | hc
      · exact hab
      · exact String.le_trans hab (hb c hc)
    · next hab =>
      have hba : b ≤ a := (String.le_total a b).resolve_left hab
      refine List.pairwise_cons.mpr ⟨fun c hc => ?_, ih hrest⟩
      rcases mem_insertName.mp hc with rfl | hc
      · exact hba
      · exact hb c hc

theorem pairwise_sortNames (l : List String) : (sortNames l).Pairwise (· ≤ ·) := by
  induction l with
  | nil => exact .nil
  | cons a rest ih => exact pairwise_insertName a ih

/-- Names in another order are sorted to the same list. -/
theorem sortNames_eq_of_perm {l l' : List String} (h : l.Perm l') :
    sortNames l = sortNames l' := by
  have hperm : (sortNames l).Perm (sortNames l') :=
    (sortNames_perm l).trans (h.trans (sortNames_perm l').symm)
  exact hperm.eq_of_pairwise (fun _ _ _ _ => String.le_antisymm) (pairwise_sortNames l)
    (pairwise_sortNames l')

theorem nodup_sortNames {l : List String} (h : l.Nodup) : (sortNames l).Nodup :=
  (sortNames_perm l).nodup_iff.mpr h

theorem pairwise_lt_sortNames {l : List String} (h : l.Nodup) :
    (sortNames l).Pairwise (· < ·) := by
  have hboth := (pairwise_sortNames l).and (nodup_sortNames h)
  exact hboth.imp fun hab => Std.lt_of_le_of_ne hab.1 hab.2

/-! ## 2. The fields of a kind -/

theorem nodup_lastOccurrences (l : List String) : (lastOccurrences l).Nodup := by
  induction l with
  | nil => exact List.nodup_nil
  | cons a rest ih =>
    unfold lastOccurrences
    split
    · exact ih
    · next ha =>
      have hfresh : a ∉ lastOccurrences rest := fun hm => ha (mem_lastOccurrences.mp hm)
      exact List.nodup_cons.mpr ⟨hfresh, ih⟩

namespace NodeKind

/-- No field is listed twice. -/
theorem nodup_orderedFields (k : NodeKind) : k.orderedFields.Nodup := by
  have hothers := nodup_sortNames (k.fields.nodup_keys.filter (· ∉ k.builderKeys))
  refine List.nodup_append.mpr ⟨nodup_lastOccurrences _, hothers, ?_⟩
  rintro name hkey _ hother rfl
  have hname := (List.mem_filter.mp (mem_sortNames.mp hother)).2
  exact of_decide_eq_true hname (mem_lastOccurrences.mp hkey)

/-- The order of the fields depends on the keys of the builder and on which fields there are. -/
theorem orderedFields_congr {k k' : NodeKind} (hkeys : k'.builderKeys = k.builderKeys)
    (hfields : k.fields.keys.Perm k'.fields.keys) : k'.orderedFields = k.orderedFields := by
  unfold orderedFields
  rw [hkeys, sortNames_eq_of_perm (hfields.filter _)]

end NodeKind

/-! ## 3. The kinds of a registry -/

namespace Registry

/-- The kinds of a registry ascend, and none comes twice. -/
theorem pairwise_lt_kindNames (r : Registry) : r.kindNames.Pairwise (· < ·) :=
  pairwise_lt_sortNames r.kinds.nodup_keys

theorem nodup_kindNames (r : Registry) : r.kindNames.Nodup := nodup_sortNames r.kinds.nodup_keys

theorem nodup_name_sorted (r : Registry) : (r.sorted.map NodeKind.name).Nodup := by
  rw [r.map_name_sorted]
  exact r.nodup_kindNames

theorem pairwise_lt_name_sorted (r : Registry) : (r.sorted.map NodeKind.name).Pairwise (· < ·) := by
  rw [r.map_name_sorted]
  exact r.pairwise_lt_kindNames

/-- The kinds in ascending order are all kinds. -/
theorem mem_sorted_iff {r : Registry} {k : NodeKind} : k ∈ r.sorted ↔ r.get k.name = .ok k :=
  ⟨get_of_mem_sorted, fun h => (mem_sorted_of_get h).1⟩

/-- In whatever order the kinds were given, their names stand in the same one. -/
theorem kindNames_congr {r r' : Registry} (h : r.kinds.keys.Perm r'.kinds.keys) :
    r.kindNames = r'.kindNames := sortNames_eq_of_perm h

end Registry

end NodeSchema
