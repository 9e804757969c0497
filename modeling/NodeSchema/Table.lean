/-!
# Tables that remember the order of arrival

A `Table` maps keys to values and lists its entries in the order in which their keys first arrived.
Writing to a key that is present replaces the value and moves nothing; a new key goes to the end.
Keys are distinct by construction, so a table is determined by its list of entries.
-/

namespace NodeSchema

variable {κ α : Type} [DecidableEq κ]

/-! ## 1. Association lists -/

def lookupEntry (k : κ) : List (κ × α) → Option α
  | [] => none
  | (k', v) :: rest => if k' = k then some v else lookupEntry k rest

/-- Replaces the value of `k` where it stands, or adds an entry at the end. -/
def insertEntry (k : κ) (v : α) : List (κ × α) → List (κ × α)
  | [] => [(k, v)]
  | (k', v') :: rest => if k' = k then (k', v) :: rest else (k', v') :: insertEntry k v rest

/-- A new key goes to the end; one that is there keeps its place. -/
theorem keys_insertEntry (k : κ) (v : α) (l : List (κ × α)) :
    (insertEntry k v l).map Prod.fst =
      if k ∈ l.map Prod.fst then l.map Prod.fst else l.map Prod.fst ++ [k] := by
  induction l with
  | nil => simp [insertEntry]
  | cons e rest ih =>
    obtain ⟨k', v'⟩ := e
    by_cases h : k' = k
    · simp [insertEntry, h]
    · have h' : k ≠ k' := fun e => h e.symm
      by_cases hm : k ∈ rest.map Prod.fst
      · simp [insertEntry, h, ih, hm]
      · simp [insertEntry, h, h', ih, hm]

theorem nodup_keys_insertEntry (k : κ) (v : α) {l : List (κ × α)}
    (h : (l.map Prod.fst).Nodup) : ((insertEntry k v l).map Prod.fst).Nodup := by
  rw [keys_insertEntry]
  split
  · exact h
  · next hk =>
    rw [List.nodup_append]
    refine ⟨h, by simp, ?_⟩
    intro a ha b hb hab
    simp only [List.mem_singleton] at hb
    subst hb hab
    exact hk ha

theorem insertEntry_of_not_mem {k : κ} {v : α} {l : List (κ × α)} (h : k ∉ l.map Prod.fst) :
    insertEntry k v l = l ++ [(k, v)] := by
  induction l with
  | nil => rfl
  | cons e rest ih =>
    obtain ⟨k', v'⟩ := e
    rw [List.map_cons, List.mem_cons, not_or] at h
    rw [insertEntry, if_neg (fun e => h.1 e.symm), ih h.2, List.cons_append]

/-- An insertion changes what is found under its key, and under no other. -/
theorem lookupEntry_insertEntry (k j : κ) (v : α) (l : List (κ × α)) :
    lookupEntry j (insertEntry k v l) = if k = j then some v else lookupEntry j l := by
  induction l with
  | nil => simp [insertEntry, lookupEntry]
  | cons e rest ih =>
    obtain ⟨k', v'⟩ := e
    by_cases h : k' = k
    · subst h
      by_cases hj : k' = j <;> simp [insertEntry, lookupEntry, hj]
    · by_cases hj : k' = j
      · subst hj
        have h' : ¬ k = k' := fun e => h e.symm
        simp [insertEntry, lookupEntry, h, h']
      · simp [insertEntry, lookupEntry, h, hj, ih]

/-- Storing the value that is there changes nothing. -/
theorem insertEntry_of_lookupEntry {k : κ} {v : α} {l : List (κ × α)}
    (h : lookupEntry k l = some v) : insertEntry k v l = l := by
  induction l with
  | nil => cases h
  | cons e rest ih =>
    obtain ⟨k', v'⟩ := e
    unfold lookupEntry at h
    unfold insertEntry
    split at h
    · next hk =>
      cases h
      rw [if_pos hk]
    · next hk => rw [if_neg hk, ih h]

theorem lookupEntry_isSome (k : κ) (l : List (κ × α)) :
    (lookupEntry k l).isSome ↔ k ∈ l.map Prod.fst := by
  induction l with
  | nil => simp [lookupEntry]
  | cons e rest ih =>
    obtain ⟨k', v'⟩ := e
    by_cases h : k' = k
    · simp [lookupEntry, h]
    · have h' : k ≠ k' := fun e => h e.symm
      simp [lookupEntry, h, h', ih]

theorem mem_of_lookupEntry {k : κ} {v : α} {l : List (κ × α)} (h : lookupEntry k l = some v) :
    (k, v) ∈ l := by
  induction l with
  | nil => cases h
  | cons e rest ih =>
    obtain ⟨k', v'⟩ := e
    unfold lookupEntry at h
    split at h
    · next hk => cases h; rw [hk]; exact List.mem_cons_self
    · exact List.mem_cons_of_mem _ (ih h)

/-- Where no key has two entries, every entry is the one that is found. -/
theorem lookupEntry_of_mem {k : κ} {v : α} {l : List (κ × α)} (hl : (l.map Prod.fst).Nodup)
    (h : (k, v) ∈ l) : lookupEntry k l = some v := by
  induction l with
  | nil => cases h
  | cons e rest ih =>
    obtain ⟨k', v'⟩ := e
    rw [List.map_cons, List.nodup_cons] at hl
    unfold lookupEntry
    rcases List.mem_cons.mp h with h | h
    · cases h; rw [if_pos rfl]
    · rw [if_neg, ih hl.2 h]
      rintro rfl
      exact hl.1 (List.mem_map.mpr ⟨_, h, rfl⟩)

theorem mem_insertEntry {k : κ} {v : α} {e : κ × α} {l : List (κ × α)}
    (h : e ∈ insertEntry k v l) : e = (k, v) ∨ e ∈ l := by
  induction l with
  | nil => exact .inl (by simpa [insertEntry] using h)
  | cons e' rest ih =>
    obtain ⟨k', v'⟩ := e'
    unfold insertEntry at h
    split at h
    · next hk =>
      rcases List.mem_cons.1 h with h | h
      · exact .inl (by rw [h, hk])
      · exact .inr (List.mem_cons_of_mem _ h)
    · rcases List.mem_cons.1 h with h | h
      · exact .inr (h ▸ List.mem_cons_self)
      · exact (ih h).imp_right (List.mem_cons_of_mem _)

/-! ## 2. Tables -/

/-- A finite map whose entries stand in the order in which their keys first arrived. -/
structure Table (κ α : Type) where
  entries : List (κ × α)
  nodup : (entries.map Prod.fst).Nodup

namespace Table

def empty : Table κ α := ⟨[], by simp⟩

instance : EmptyCollection (Table κ α) := ⟨empty⟩

instance : Inhabited (Table κ α) := ⟨empty⟩

def keys (t : Table κ α) : List κ := t.entries.map Prod.fst

def get? (t : Table κ α) (k : κ) : Option α := lookupEntry k t.entries

def contains (t : Table κ α) (k : κ) : Bool := (t.get? k).isSome

def size (t : Table κ α) : Nat := t.entries.length

def insert (t : Table κ α) (k : κ) (v : α) : Table κ α :=
  ⟨insertEntry k v t.entries, nodup_keys_insertEntry k v t.nodup⟩

def ofList (l : List (κ × α)) : Table κ α :=
  l.foldl (fun t e => t.insert e.1 e.2) empty

omit [DecidableEq κ] in
@[simp] theorem keys_empty : (empty : Table κ α).keys = [] := rfl

@[simp] theorem get?_empty (k : κ) : (empty : Table κ α).get? k = none := rfl

omit [DecidableEq κ] in
@[ext] theorem ext {t t' : Table κ α} (h : t.entries = t'.entries) : t = t' := by
  cases t
  cases t'
  cases h
  rfl

omit [DecidableEq κ] in
theorem nodup_keys (t : Table κ α) : t.keys.Nodup := t.nodup

theorem keys_insert (t : Table κ α) (k : κ) (v : α) :
    (t.insert k v).keys = if k ∈ t.keys then t.keys else t.keys ++ [k] :=
  keys_insertEntry k v t.entries

theorem mem_keys_insert {t : Table κ α} {k j : κ} {v : α} :
    j ∈ (t.insert k v).keys ↔ j ∈ t.keys ∨ j = k := by
  rw [keys_insert]
  split
  · next hk => exact ⟨Or.inl, by rintro (h | rfl) <;> assumption⟩
  · rw [List.mem_append, List.mem_singleton]

theorem get?_insert (t : Table κ α) (k j : κ) (v : α) :
    (t.insert k v).get? j = if k = j then some v else t.get? j :=
  lookupEntry_insertEntry k j v t.entries

/-- Inserting what is there changes nothing. -/
theorem insert_of_get? {t : Table κ α} {k : κ} {v : α} (h : t.get? k = some v) :
    t.insert k v = t :=
  Table.ext (insertEntry_of_lookupEntry h)

theorem mem_keys_foldl_insert {j : κ} (l : List (κ × α)) (t : Table κ α) :
    j ∈ (l.foldl (fun t e => t.insert e.1 e.2) t).keys ↔ j ∈ t.keys ∨ j ∈ l.map Prod.fst := by
  induction l generalizing t with
  | nil => simp
  | cons e rest ih =>
    rw [List.foldl_cons, ih, mem_keys_insert, List.map_cons, List.mem_cons, or_assoc]

/-- The keys of a list of entries are the keys of its table. -/
theorem mem_keys_ofList {j : κ} {l : List (κ × α)} : j ∈ (ofList l).keys ↔ j ∈ l.map Prod.fst := by
  rw [ofList, mem_keys_foldl_insert]
  simp

/-- Entries with new keys go to the end, in their order. -/
theorem entries_foldl_insert (l : List (κ × α)) (t : Table κ α)
    (h : ((t.entries ++ l).map Prod.fst).Nodup) :
    (l.foldl (fun t e => t.insert e.1 e.2) t).entries = t.entries ++ l := by
  induction l generalizing t with
  | nil => simp
  | cons e rest ih =>
    have hk : e.1 ∉ t.entries.map Prod.fst := by
      rw [List.map_append, List.map_cons, List.nodup_append] at h
      intro hm
      exact h.2.2 e.1 hm e.1 List.mem_cons_self rfl
    have he : (t.insert e.1 e.2).entries = t.entries ++ [e] := insertEntry_of_not_mem hk
    rw [List.foldl_cons, ih, he, List.append_assoc, List.singleton_append]
    rwa [he, List.append_assoc, List.singleton_append]

/-- A list of entries with distinct keys is the list of entries of its table. -/
theorem entries_ofList {l : List (κ × α)} (h : (l.map Prod.fst).Nodup) :
    (ofList l).entries = l :=
  entries_foldl_insert l empty h

/-- A table is the table of its entries. -/
theorem ofList_entries (t : Table κ α) : ofList t.entries = t :=
  Table.ext (entries_ofList t.nodup)

theorem isSome_get? (t : Table κ α) (k : κ) : (t.get? k).isSome ↔ k ∈ t.keys :=
  lookupEntry_isSome k t.entries

end Table

end NodeSchema
