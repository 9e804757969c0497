import Mathlib.Data.List.Induction
import Mathlib.Data.List.Nodup
import NodeSchema.Table
/-!
# First and last occurrences

A loop that adds what it has not met before leaves the first occurrences of what it has read, in
order. That list is `List.eraseDups`; here it is said how it grows with every further item, and what
becomes of it when items are dropped, tagged, or read in groups. A loop that writes to a table leaves
the last entry that it has read for every key.

* `eraseDups_concat` — one item more; every other fact is read off this one.
* `nodup_eraseDups`, `eraseDups_of_nodup`, `eraseDups_filter` — repetitions and choices.
* `eraseDups_flatMap_tagged` — groups under distinct tags keep apart.
* `filter_tag_eq_singleton` — where tags are distinct, one item has a given tag.
* `Table.get?_ofList` — a table that is filled entry by entry keeps the last entry for every key.
* `getLast?_of_pairwise`, `rel_getLast?` — the last item of a list in order is the greatest.
-/

namespace NodeSchema

/-! ## 1. First occurrences -/

section

variable {α β : Type} [BEq α] [LawfulBEq α] [BEq β] [LawfulBEq β]

/-- An item at the end counts if there is no other like it. -/
theorem eraseDups_concat (l : List α) (a : α) :
    (l ++ [a]).eraseDups = if a ∈ l then l.eraseDups else l.eraseDups ++ [a] := by
  rw [List.eraseDups_append]
  by_cases h : a ∈ l <;> simp [List.removeAll, List.eraseDups_cons, h]

/-- An item that has been met changes nothing. -/
theorem eraseDups_concat_of_mem {l : List α} {a : α} (h : a ∈ l) :
    (l ++ [a]).eraseDups = l.eraseDups := by
  rw [eraseDups_concat, if_pos h]

theorem eraseDups_concat_of_not_mem {l : List α} {a : α} (h : a ∉ l) :
    (l ++ [a]).eraseDups = l.eraseDups ++ [a] := by
  rw [eraseDups_concat, if_neg h]

theorem nodup_eraseDups (l : List α) : l.eraseDups.Nodup := by
  induction l using List.reverseRecOn with
  | nil => exact List.nodup_nil
  | append_singleton rest a ih =>
    by_cases h : a ∈ rest
    · rwa [eraseDups_concat_of_mem h]
    · rw [eraseDups_concat_of_not_mem h]
      have hfresh : a ∉ rest.eraseDups := fun hm => h (List.mem_eraseDups.mp hm)
      rw [← List.concat_eq_append]
      exact ih.concat hfresh

theorem eraseDups_of_nodup {l : List α} (h : l.Nodup) : l.eraseDups = l := by
  induction l using List.reverseRecOn with
  | nil => rfl
  | append_singleton rest a ih =>
    have hrest := List.nodup_append.mp h
    have hfresh : a ∉ rest := fun hm => hrest.2.2 a hm a List.mem_cons_self rfl
    rw [eraseDups_concat_of_not_mem hfresh, ih hrest.1]

/-- Dropping items before or after makes no difference. -/
theorem eraseDups_filter (p : α → Bool) (l : List α) :
    (l.filter p).eraseDups = l.eraseDups.filter p := by
  induction l using List.reverseRecOn with
  | nil => rfl
  | append_singleton rest a ih =>
    rw [List.filter_append]
    by_cases hp : p a = true
    · rw [List.filter_cons_of_pos hp, List.filter_nil, eraseDups_concat, eraseDups_concat]
      by_cases ha : a ∈ rest
      · simp [ha, hp, ih]
      · simp [ha, hp, ih]
    · rw [List.filter_cons_of_neg hp, List.filter_nil, List.append_nil, eraseDups_concat, ih]
      split
      · rfl
      · simp [hp]

/-- Items under one tag are tagged after the first occurrences have been taken, or before. -/
theorem eraseDups_map_tag (b : β) (l : List α) :
    (l.map (b, ·)).eraseDups = l.eraseDups.map (b, ·) := by
  induction l using List.reverseRecOn with
  | nil => rfl
  | append_singleton rest a ih =>
    rw [List.map_append, List.map_singleton, eraseDups_concat, eraseDups_concat, ih]
    by_cases h : a ∈ rest <;> simp [h]

/-- In groups under distinct tags the first occurrences are those of every group. -/
theorem eraseDups_flatMap_tagged {γ : Type} (tag : γ → β) (items : γ → List α) :
    ∀ {groups : List γ}, (groups.map tag).Nodup →
      (groups.flatMap fun g => (items g).map (tag g, ·)).eraseDups =
        groups.flatMap fun g => (items g).eraseDups.map (tag g, ·)
  | [], _ => rfl
  | g :: rest, h => by
    obtain ⟨hg, hrest⟩ := List.nodup_cons.mp h
    rw [List.flatMap_cons, List.flatMap_cons, List.eraseDups_append, eraseDups_map_tag]
    -- Nothing of the later groups stands under the tag of the first one.
    have happart : (rest.flatMap fun g => (items g).map (tag g, ·)).removeAll
        ((items g).map (tag g, ·)) = rest.flatMap fun g => (items g).map (tag g, ·) := by
      refine List.filter_eq_self.mpr fun p hp => ?_
      obtain ⟨g', hg', hp⟩ := List.mem_flatMap.mp hp
      obtain ⟨a, _, rfl⟩ := List.mem_map.mp hp
      have hne : tag g ≠ tag g' := fun e => hg (List.mem_map.mpr ⟨g', hg', e.symm⟩)
      simp [hne]
    rw [happart, eraseDups_flatMap_tagged tag items hrest]

omit [BEq α] [LawfulBEq α] [BEq β] [LawfulBEq β] in
/-- Of items with distinct tags there is one with the tag of a given item. -/
theorem filter_tag_eq_singleton [DecidableEq β] (tag : α → β) {l : List α}
    (hl : (l.map tag).Nodup) {a : α} (ha : a ∈ l) : l.filter (tag · = tag a) = [a] := by
  induction l with
  | nil => cases ha
  | cons b rest ih =>
    have hb := List.nodup_cons.mp hl
    by_cases hba : tag b = tag a
    · -- No later item has the tag, so the given item is the first one.
      have hrest : rest.filter (tag · = tag a) = [] := by
        refine List.filter_eq_nil_iff.mpr fun x hx htag => hb.1 ?_
        have htag : tag x = tag a := of_decide_eq_true htag
        rw [hba, ← htag]
        exact List.mem_map_of_mem hx
      have hab : a = b := by
        rcases List.mem_cons.mp ha with h | h
        · exact h
        · exact absurd (hba ▸ List.mem_map_of_mem h) hb.1
      rw [List.filter_cons_of_pos (by simp [hba]), hrest, hab]
    · have hne : a ≠ b := fun h => hba (by rw [h])
      have ha : a ∈ rest := (List.mem_cons.mp ha).resolve_left hne
      simp [hba, ih hb.2 ha]

end

/-! ## 2. The last of a list -/

/-- In a table that is filled from a list, the last entry for a key counts. -/
theorem Table.get?_ofList {κ α : Type} [DecidableEq κ] (l : List (κ × α)) (key : κ) :
    (Table.ofList l).get? key = ((l.filter (·.1 = key)).getLast?).map Prod.snd := by
  induction l using List.reverseRecOn with
  | nil => rfl
  | append_singleton rest e ih =>
    have hstep : Table.ofList (rest ++ [e]) = (Table.ofList rest).insert e.1 e.2 := by
      rw [Table.ofList, List.foldl_append]
      rfl
    rw [hstep, Table.get?_insert, List.filter_append]
    by_cases h : e.1 = key
    · simp [h]
    · simp [h, ih]

section

variable {α : Type} {R : α → α → Prop} {l : List α} {a : α}

/-- In a list in order an item that nothing comes after is the last one. -/
theorem getLast?_of_pairwise (h : l.Pairwise R) (ha : a ∈ l) (hlast : ∀ b ∈ l, ¬ R a b) :
    l.getLast? = some a := by
  induction l using List.reverseRecOn with
  | nil => cases ha
  | append_singleton rest z _ =>
    rw [List.getLast?_append, List.getLast?_singleton, Option.some_or]
    rcases List.mem_append.mp ha with ha | ha
    · have haz : R a z := (List.pairwise_append.mp h).2.2 a ha z List.mem_cons_self
      exact absurd haz (hlast z (by simp))
    · rw [List.mem_singleton.mp ha]

/-- In a list in order everything but the last item comes before it. -/
theorem rel_getLast? (h : l.Pairwise R) (hlast : l.getLast? = some a) {b : α} (hb : b ∈ l) :
    b = a ∨ R b a := by
  induction l using List.reverseRecOn with
  | nil => cases hb
  | append_singleton rest z _ =>
    rw [List.getLast?_append, List.getLast?_singleton, Option.some_or] at hlast
    cases hlast
    rcases List.mem_append.mp hb with hb | hb
    · exact Or.inr ((List.pairwise_append.mp h).2.2 b hb a List.mem_cons_self)
    · exact Or.inl (List.mem_singleton.mp hb)

end

end NodeSchema
