import NodeSchema.Proofs.Registry.Grammar
import NodeSchema.Proofs.Value.DistinctKeys
import NodeSchema.Registry.Sample
/-!
# What registry documents are accepted and what they say

The main statement on documents, from the grammar of their parts.

* `Describes` — a registry lists the kinds of the table of builder keys, in the order of that table
  and each under its key.
* `ofDocument_eq_ok_iff_describes` — for a document without repeated keys, the registry that is read
  is the one that is described.
* `AgreeOnKinds` — two sets of tables that differ in no entry of a kind in the table of builder
  keys. `ofTables_congr`
* `ofDocument_reads_grammar` — acceptance, result, and what has no influence on either.
-/

namespace NodeSchema.Registry

/-! ## 1. The registry that is described -/

/-- `Describes t r` — the kinds of the registry are those with an entry in the table of builder
keys, and each is what its entries say. -/
def Describes (t : Tables) (r : Registry) : Prop :=
  List.Forall₂ (fun e k => k.1 = e.1 ∧ DescribesKind t e.1 e.2 k.2 k.2.fields.entries)
    t.builderKeys r.kinds.entries

theorem HasTables.distinctKeys {document : Value} {t : Tables} (h : HasTables document t)
    (hd : document.distinctKeys = true) :
    (Value.object t.fields).distinctKeys = true ∧ (t.builderKeys.map Prod.fst).Nodup := by
  cases document with
  | object members =>
    have hk := Value.distinctKeys_of_lookupEntry hd h.builderKeys
    exact ⟨Value.distinctKeys_of_lookupEntry hd h.fields, (Value.distinctKeys_object_iff.mp hk).1⟩
  | _ => cases h.fields

/-- The members of a table of fields have distinct names. -/
theorem HoldsFields.nodup {kind : String} {table members : List (String × Value)}
    (h : HoldsFields (entryOf kind table) members)
    (ht : (Value.object table).distinctKeys = true) : (members.map Prod.fst).Nodup := by
  generalize hv : entryOf kind table = v at h
  cases h with
  | nothing => exact List.nodup_nil
  | members members =>
    unfold entryOf at hv
    cases hl : lookupEntry kind table with
    | none => rw [hl] at hv; cases hv
    | some v =>
      rw [hl] at hv
      have hd := Value.distinctKeys_of_lookupEntry ht hl
      rw [show v = .object members from hv] at hd
      exact (Value.distinctKeys_object_iff.mp hd).1

/-- Without repeated keys the fields of a kind stand in its table as they are described. -/
theorem kindOf_eq_ok_iff_describes {t : Tables} {kind : String} {keys : Value} {k : NodeKind}
    (ht : (Value.object t.fields).distinctKeys = true) :
    kindOf t kind keys = .ok k ↔ DescribesKind t kind keys k k.fields.entries := by
  rw [kindOf_eq_ok_iff]
  constructor
  · rintro ⟨fields, h, hfields⟩
    obtain ⟨members, hm, hf⟩ := h.fields
    have hnodup : (fields.map Prod.fst).Nodup := by
      rw [hf.map_fst]
      exact hm.nodup ht
    rwa [hfields, Table.entries_ofList hnodup]
  · intro h
    exact ⟨_, h, (Table.ofList_entries _).symm⟩

theorem map_fst_of_describes {t : Tables} {entries : List (String × Value)}
    {kinds : List NodeKind}
    (h : List.Forall₂ (fun e k => DescribesKind t e.1 e.2 k k.fields.entries) entries kinds) :
    (kinds.map fun k => (k.name, k)).map Prod.fst = entries.map Prod.fst := by
  induction h with
  | nil => rfl
  | cons hk _ ih => simp only [List.map_cons, ih, hk.name]

/-- The registry of a list of kinds that are described one by one is described. -/
theorem ofTables_eq_ok_iff_describes {t : Tables} {r : Registry}
    (ht : (Value.object t.fields).distinctKeys = true)
    (hk : (t.builderKeys.map Prod.fst).Nodup) : ofTables t = .ok r ↔ Describes t r := by
  simp only [ofTables_eq_ok_iff, kindOf_eq_ok_iff_describes ht]
  constructor
  · rintro ⟨kinds, h, rfl⟩
    -- No kind replaces another one, since no two have builder keys under one name.
    have hnodup := hk
    rw [← map_fst_of_describes h] at hnodup
    rw [Describes, kinds_ofKinds, Table.entries_ofList hnodup, List.forall₂_map_right_iff]
    exact h.imp fun e k h => ⟨h.name, h⟩
  · intro h
    refine ⟨r.kinds.entries.map Prod.snd, ?_, (ofKinds_kinds r).symm⟩
    rw [List.forall₂_map_right_iff]
    exact h.imp fun e k h => h.2

/-- A document without repeated keys is read as the registry that its tables describe. -/
theorem ofDocument_eq_ok_iff_describes {document : Value} {r : Registry}
    (hd : document.distinctKeys = true) :
    ofDocument document = .ok r ↔ ∃ t, HasTables document t ∧ Describes t r := by
  rw [ofDocument_eq_ok_iff_ofTables]
  constructor
  · rintro ⟨t, ht, h⟩
    obtain ⟨hf, hk⟩ := ht.distinctKeys hd
    exact ⟨t, ht, (ofTables_eq_ok_iff_describes hf hk).mp h⟩
  · rintro ⟨t, ht, h⟩
    obtain ⟨hf, hk⟩ := ht.distinctKeys hd
    exact ⟨t, ht, (ofTables_eq_ok_iff_describes hf hk).mpr h⟩

/-! ## 2. What is never looked at -/

/-- Whether two sets of tables have the same builder keys, and the same fields and aliases for
every kind with builder keys. -/
structure AgreeOnKinds (t t' : Tables) : Prop where
  builderKeys : t'.builderKeys = t.builderKeys
  fields : ∀ e ∈ t.builderKeys, lookupEntry e.1 t'.fields = lookupEntry e.1 t.fields
  aliases : ∀ e ∈ t.builderKeys, lookupEntry e.1 t'.aliases = lookupEntry e.1 t.aliases

/-- A kind depends on no entries of the tables but its own. -/
theorem kindOf_congr {t t' : Tables} {kind : String} (keys : Value)
    (hf : lookupEntry kind t'.fields = lookupEntry kind t.fields)
    (ha : lookupEntry kind t'.aliases = lookupEntry kind t.aliases) :
    kindOf t' kind keys = kindOf t kind keys := by
  unfold kindOf entryOf
  rw [hf, ha]

theorem kindsOf_congr {t t' : Tables} :
    ∀ {entries : List (String × Value)},
      (∀ e ∈ entries, lookupEntry e.1 t'.fields = lookupEntry e.1 t.fields) →
      (∀ e ∈ entries, lookupEntry e.1 t'.aliases = lookupEntry e.1 t.aliases) →
      kindsOf t' entries = kindsOf t entries
  | [], _, _ => rfl
  | (kind, keys) :: rest, hf, ha => by
    rw [List.forall_mem_cons] at hf ha
    rw [kindsOf, kindsOf, kindOf_congr keys hf.1 ha.1, kindsOf_congr hf.2 ha.2]

/-- Entries of kinds without builder keys have no influence. -/
theorem ofTables_congr {t t' : Tables} (h : AgreeOnKinds t t') : ofTables t' = ofTables t := by
  rw [ofTables, ofTables, h.builderKeys, kindsOf_congr h.fields h.aliases]

/-! ## 3. Documents -/

/-- **Documents are read by their grammar.** A document gives a registry exactly when it has its
tables and the entries of every kind in the table of builder keys are in order. If no key is
repeated in it, the registry is the one with exactly these kinds, each as its entries say. Documents
that agree on the kinds in the table of builder keys give the same registry or the same error. -/
theorem ofDocument_reads_grammar (document : Value) :
    ((∃ r, ofDocument document = .ok r) ↔
      ∃ t, HasTables document t ∧ ∀ e ∈ t.builderKeys, AcceptsKind t e.1 e.2) ∧
    (document.distinctKeys = true → ∀ r,
      ofDocument document = .ok r ↔ ∃ t, HasTables document t ∧ Describes t r) ∧
    (∀ document' t t', HasTables document t → HasTables document' t' → AgreeOnKinds t t' →
      ofDocument document' = ofDocument document) := by
  refine ⟨?_, fun hd r => ofDocument_eq_ok_iff_describes hd, ?_⟩
  · simp only [ofDocument_eq_ok_iff_ofTables, ← exists_ofTables_iff]
    constructor
    · rintro ⟨r, t, ht, h⟩; exact ⟨t, ht, r, h⟩
    · rintro ⟨t, ht, r, h⟩; exact ⟨r, t, ht, h⟩
  · intro document' t t' ht ht' h
    rw [ht.ofDocument_eq, ht'.ofDocument_eq, ofTables_congr h]

/-- The sample document has no repeated keys, and its registry is the one that is described. -/
theorem sample_reads_grammar :
    Sample.document.distinctKeys = true ∧
      ∃ r t, ofDocument Sample.document = .ok r ∧ HasTables Sample.document t ∧ Describes t r := by
  have hd : Sample.document.distinctKeys = true := by decide +kernel
  have hread : (ofDocument Sample.document).toOption.isSome = true := by rfl
  obtain ⟨r, hr⟩ := exists_ok_of_isSome hread
  obtain ⟨t, ht, h⟩ := ((ofDocument_reads_grammar Sample.document).2.1 hd r).mp hr
  exact ⟨hd, r, t, hr, ht, h⟩

end NodeSchema.Registry
