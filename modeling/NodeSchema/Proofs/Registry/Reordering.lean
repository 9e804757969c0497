import NodeSchema.Proofs.Registry.Acceptance
import NodeSchema.Proofs.Validator.Reordering
/-!
# Documents whose entries stand in another order

The order in which a document lists its entries has no influence on what it says, on any level: the
tables are found by their keys, the entries of a kind by the name of the kind, and the members of a
field entry by their keys. Kinds and fields are read one by one, so their order only decides the
order in which they are kept, and none of them is read in one order and refused in another.

* `SameDocument` — two documents that differ in nothing but the order of entries.
* `Registry.Alike` — two registries with the same kinds in whatever order.
* `fieldOf_sameEntry`, `kindOf_sameTables`, `ofTables_sameTables` — the levels from the inside out.
* `ofDocument_sameDocument` — the one document is read when the other is, and as a like registry.
-/

namespace NodeSchema

open Validator (SameDescription)

/-! ## 1. Documents -/

namespace Registry

/-- What may differ in the members of a field entry: the descriptions of the validator are the same
to the given depth. -/
def SameMember (depth : Nat) (key : String) (v v' : Value) : Prop :=
  if key = "validate" ∨ key = "validator" then SameDescription depth v v' else v' = v

/-- Field entries whose members stand in another order. -/
def SameEntry (depth : Nat) : Value → Value → Prop := Value.Reordered (SameMember depth)

/-- Tables whose entries stand in another order and are related by `R`. -/
def SameTable (R : Value → Value → Prop) : Value → Value → Prop := Value.Reordered fun _ => R

/-- What may differ in the members of a document: the order of entries in the three tables, and
inside the table of fields in the fields of a kind and in the entry of a field. -/
def SamePart (depth : Nat) (key : String) (v v' : Value) : Prop :=
  if key = "NODE_FIELDS" then SameTable (SameTable (SameEntry depth)) v v'
  else if key = "BUILDER_KEYS" ∨ key = "ALIAS_KEYS" then SameTable (fun v v' => v' = v) v v'
  else v' = v

/-- `SameDocument depth document document'` — the two documents differ in nothing but the order of
entries: on the top, in each of the three tables, in the fields of a kind, in the entry of a field,
and to the given depth in the option objects that describe its validator. -/
def SameDocument (depth : Nat) : Value → Value → Prop := Value.Reordered (SamePart depth)

section

variable {R : Value → Value → Prop} {depth : Nat} {key : String} {v v' : Value}

theorem SameTable.symm (h : SameTable R v v') (hR : ∀ v v', R v v' → R v' v) : SameTable R v' v :=
  (Value.Reordered.flip h).mono fun _ _ _ => hR _ _

theorem SameMember.symm (h : SameMember depth key v v') : SameMember depth key v' v := by
  unfold SameMember at h ⊢
  split
  · next hkey => rw [if_pos hkey] at h; exact h.symm
  · next hkey => rw [if_neg hkey] at h; exact h.symm

theorem SameEntry.refl (depth : Nat) (v : Value) : SameEntry depth v v := .same v

theorem SameEntry.symm (h : SameEntry depth v v') : SameEntry depth v' v :=
  (Value.Reordered.flip h).mono fun _ _ _ => SameMember.symm

theorem SamePart.refl (depth : Nat) (key : String) (v : Value) : SamePart depth key v v := by
  unfold SamePart
  split
  · exact .same v
  · split
    · exact .same v
    · rfl

theorem SamePart.symm (h : SamePart depth key v v') : SamePart depth key v' v := by
  unfold SamePart at h ⊢
  split
  · next hkey =>
    rw [if_pos hkey] at h
    exact h.symm fun _ _ hfields => hfields.symm fun _ _ => SameEntry.symm
  · next hkey =>
    rw [if_neg hkey] at h
    split
    · next hkey' => rw [if_pos hkey'] at h; exact h.symm fun _ _ => Eq.symm
    · next hkey' => rw [if_neg hkey'] at h; exact h.symm

theorem SameDocument.symm (h : SameDocument depth v v') : SameDocument depth v' v :=
  (Value.Reordered.flip h).mono fun _ _ _ => SamePart.symm

end

end Registry

/-! ## 2. Like registries -/

section

variable (D : Value → Value → Prop)

structure Field.Alike (f f' : Field) : Prop where
  validator : Option.Rel (Validator.Alike D) f.validator f'.validator
  optional : f'.optional = f.optional
  default : f'.default = f.default

/-- Kinds that have the same names and keys, and like fields in whatever order. -/
structure NodeKind.Alike (k k' : NodeKind) : Prop where
  name : k'.name = k.name
  builderKeys : k'.builderKeys = k.builderKeys
  aliases : k'.aliases = k.aliases
  fields : SameEntries (fun _ => Field.Alike D) k.fields.entries k'.fields.entries

def Registry.Alike (r r' : Registry) : Prop :=
  SameEntries (fun _ => NodeKind.Alike D) r.kinds.entries r'.kinds.entries

variable {D}

theorem Field.Alike.refl (f : Field) : f.Alike D f := ⟨Option.Rel.refl .same _, rfl, rfl⟩

end

/-! ## 3. Fields -/

namespace Registry

variable {depth : Nat}

/-- Both entries describe the validator under the same key. -/
theorem validatorIn_sameEntry {members members' : List (String × Value)}
    (h : SameEntries (SameMember depth) members members') :
    SameDescription depth (validatorIn members) (validatorIn members') := by
  have hvalidate : Option.Rel (SameDescription depth) _ _ :=
    (h.lookup "validate").mono fun _ _ hv => by rwa [SameMember, if_pos (Or.inl rfl)] at hv
  have hvalidator : Option.Rel (SameDescription depth) _ _ :=
    (h.lookup "validator").mono fun _ _ hv => by rwa [SameMember, if_pos (Or.inr rfl)] at hv
  exact (hvalidate.or hvalidator).getD (.refl depth _)

/-- The other members of both entries are the same. -/
theorem lookupEntry_sameEntry {members members' : List (String × Value)}
    (h : SameEntries (SameMember depth) members members') (key : String)
    (hkey : ¬ (key = "validate" ∨ key = "validator")) :
    lookupEntry key members' = lookupEntry key members :=
  Option.Rel.eq ((h.lookup key).mono fun _ _ hv => by rwa [SameMember, if_neg hkey] at hv)

/-- A field entry in another order is read, and as a like field. -/
theorem fieldOf_sameEntry {v v' : Value} {field : Field} (h : SameEntry depth v v')
    (hread : fieldOf v = .ok field) :
    ∃ field', fieldOf v' = .ok field' ∧ field.Alike (SameDescription depth) field' := by
  have htruthy : v'.truthy = v.truthy := Value.Reordered.truthy h
  have hsame : v.Reordered _ v' := h
  cases hsame with
  | same => exact ⟨field, hread, .refl field⟩
  | @object members members' hmembers =>
    cases fieldOf_eq_ok_iff.mp hread with
    | nothing hv =>
      rw [hv] at htruthy
      exact ⟨_, fieldOf_eq_ok_iff.mpr (.nothing htruthy), .refl _⟩
    | members hv =>
      obtain ⟨read', hv', hvalidator⟩ :=
        Validator.ofNative?_sameDescription (validatorIn_sameEntry hmembers) hv
      refine ⟨_, fieldOf_eq_ok_iff.mpr (.members hv'), hvalidator, ?_, ?_⟩
      · rw [lookupEntry_sameEntry hmembers "optional" (by decide)]
      · rw [lookupEntry_sameEntry hmembers "default" (by decide)]

/-! ## 4. Kinds -/

/-- `SameTables depth t t'` — the tables of two documents that differ in the order of entries. -/
structure SameTables (depth : Nat) (t t' : Tables) : Prop where
  fields : SameEntries (fun _ => SameTable (SameEntry depth)) t.fields t'.fields
  builderKeys : SameEntries (fun _ v v' => v' = v) t.builderKeys t'.builderKeys
  aliases : SameEntries (fun _ v v' => v' = v) t.aliases t'.aliases

/-- A table in another order is a table. -/
theorem SameTable.object {R : Value → Value → Prop} {table : List (String × Value)} {v' : Value}
    (h : SameTable R (.object table) v') (hR : ∀ v, R v v) (hnodup : (table.map Prod.fst).Nodup) :
    ∃ table', v' = .object table' ∧ SameEntries (fun _ => R) table table' := by
  have hsame : (Value.object table).Reordered (fun _ => R) v' := h
  cases hsame with
  | same => exact ⟨table, rfl, .refl (fun _ => hR) hnodup⟩
  | object htable => exact ⟨_, rfl, htable⟩

/-- What is absent from one table is absent from the other, and both times counts as null. -/
theorem entryOf_rel {R : Value → Value → Prop} {table table' : List (String × Value)}
    (h : SameEntries (fun _ => R) table table') (hR : ∀ v, R v v) (kind : String) :
    R (entryOf kind table) (entryOf kind table') :=
  (h.lookup kind).getD (hR .null)

/-- The fields of a kind are found in both tables. -/
theorem HoldsFields.sameTable {v v' : Value} {members : List (String × Value)}
    (h : HoldsFields v members) (hv : SameTable (SameEntry depth) v v')
    (hnodup : (members.map Prod.fst).Nodup) :
    ∃ members', HoldsFields v' members' ∧
      SameEntries (fun _ => SameEntry depth) members members' := by
  cases h with
  | nothing hfalsy =>
    rw [← Value.Reordered.truthy hv] at hfalsy
    exact ⟨[], .nothing hfalsy, .refl (fun _ => SameEntry.refl depth) .nil⟩
  | members members =>
    obtain ⟨members', rfl, hmembers⟩ := hv.object (SameEntry.refl depth) hnodup
    exact ⟨members', .members members', hmembers⟩

/-- A kind is read from both tables, and with like fields. -/
theorem kindOf_sameTables {t t' : Tables} {kind : String} {keys : Value} {k : NodeKind}
    (h : SameTables depth t t') (ht : (Value.object t.fields).distinctKeys = true)
    (ht' : (Value.object t'.fields).distinctKeys = true) (hkind : kindOf t kind keys = .ok k) :
    ∃ k', kindOf t' kind keys = .ok k' ∧ k.Alike (SameDescription depth) k' := by
  have hk := (kindOf_eq_ok_iff_describes ht).mp hkind
  obtain ⟨members, hm, hf⟩ := hk.fields
  obtain ⟨members', hm', hmembers⟩ :=
    hm.sameTable (entryOf_rel h.fields (fun v => .same v) kind) (hm.nodup ht)
  simp only [FieldsMatch, ← fieldOf_eq_ok_iff] at hf
  have hread : ∀ (_ : String) v v' field, SameEntry depth v v' → fieldOf v = .ok field →
      ∃ field', fieldOf v' = .ok field' ∧ field.Alike (SameDescription depth) field' :=
    fun _ _ _ _ => fieldOf_sameEntry
  obtain ⟨fields', hf', hfields⟩ := hmembers.read hread hf
  have hnodup : (fields'.map Prod.fst).Nodup := hfields.keys.nodup_iff.mp k.fields.nodup
  -- The builder still takes fields only, since the same names have come in another order.
  let k' : NodeKind :=
    { k with
      fields := ⟨fields', hnodup⟩
      builderKeys_fields := fun key hkey =>
        hfields.keys.mem_iff.mp (k.builderKeys_fields key hkey) }
  have haliases : entryOf kind t'.aliases = entryOf kind t.aliases :=
    entryOf_rel h.aliases (fun _ => rfl) kind
  refine ⟨k', (kindOf_eq_ok_iff_describes ht').mpr ⟨hk.name, hk.builderKeys, ?_, ?_⟩,
    rfl, rfl, rfl, hfields⟩
  · simp only [fieldOf_eq_ok_iff] at hf'
    exact ⟨members', hm', hf'⟩
  · rw [haliases]
    exact hk.aliases

/-! ## 5. Documents -/

/-- Tables in another order are read, and as a registry with like kinds. -/
theorem ofTables_sameTables {t t' : Tables} {r : Registry} (h : SameTables depth t t')
    (ht : (Value.object t.fields).distinctKeys = true)
    (ht' : (Value.object t'.fields).distinctKeys = true)
    (hk : (t.builderKeys.map Prod.fst).Nodup) (htables : ofTables t = .ok r) :
    ∃ r', ofTables t' = .ok r' ∧ r.Alike (SameDescription depth) r' := by
  have hk' : (t'.builderKeys.map Prod.fst).Nodup := h.builderKeys.keys.nodup_iff.mp hk
  have hdescribes := (ofTables_eq_ok_iff_describes ht hk).mp htables
  simp only [Describes, ← kindOf_eq_ok_iff_describes ht] at hdescribes
  -- Each kind is read from the entries under its own name, wherever it stands in the table.
  have hread : ∀ kind keys keys' k, keys' = keys → kindOf t kind keys = .ok k →
      ∃ k', kindOf t' kind keys' = .ok k' ∧ k.Alike (SameDescription depth) k' := by
    rintro kind keys _ k rfl hkind
    exact kindOf_sameTables h ht ht' hkind
  obtain ⟨kinds', hkinds', halike⟩ := h.builderKeys.read hread hdescribes
  let r' : Registry :=
    { kinds := ⟨kinds', halike.keys.nodup_iff.mp r.kinds.nodup⟩
      named := by
        intro e he
        obtain ⟨_, _, hname, hkind⟩ := exists_left_of_forall₂ hkinds' he
        rw [hname]
        exact ((kindOf_eq_ok_iff_describes ht').mp hkind).name }
  refine ⟨r', (ofTables_eq_ok_iff_describes ht' hk').mpr ?_, halike⟩
  simp only [kindOf_eq_ok_iff_describes ht'] at hkinds'
  exact hkinds'

/-- No key has two entries in a table of a document without repeated keys. -/
theorem nodup_of_member? {document : Value} {key : String} {table : List (String × Value)}
    (hd : document.distinctKeys = true) (h : document.member? key = some (.object table)) :
    (table.map Prod.fst).Nodup := by
  cases document with
  | object members =>
    exact (Value.distinctKeys_object_iff.mp (Value.distinctKeys_of_lookupEntry hd h)).1
  | _ => cases h

/-- A table that stands in one document in its place stands in the other one too. -/
theorem exists_table {R : Value → Value → Prop} {document document' : Value} {key : String}
    {table : List (String × Value)} (hd : document.distinctKeys = true)
    (h : document.member? key = some (.object table))
    (hpart : Option.Rel (SameTable R) (document.member? key) (document'.member? key))
    (hR : ∀ v, R v v) :
    ∃ table', document'.member? key = some (.object table') ∧
      SameEntries (fun _ => R) table table' := by
  obtain ⟨_, hpart', hsame⟩ := hpart.exists_of_eq_some h
  obtain ⟨table', rfl, htable⟩ := hsame.object hR (nodup_of_member? hd h)
  exact ⟨table', hpart', htable⟩

/-- The aliases stand in both documents or are left out of both. -/
theorem exists_aliases {document document' : Value} {t : Tables} (ht : HasTables document t)
    (hd : document.distinctKeys = true)
    (hpart : Option.Rel (SameTable fun v v' => v' = v) (document.member? "ALIAS_KEYS")
      (document'.member? "ALIAS_KEYS")) :
    ∃ aliases, SameEntries (fun _ v v' => v' = v) t.aliases aliases ∧
      (document'.member? "ALIAS_KEYS" = some (.object aliases) ∨
        (document'.member? "ALIAS_KEYS" = none ∨ document'.member? "ALIAS_KEYS" = some .null) ∧
          aliases = []) := by
  rcases ht.aliases with ha | ⟨hnone, hnil⟩
  · obtain ⟨aliases, ha', haliases⟩ := exists_table hd ha hpart fun _ => rfl
    exact ⟨aliases, haliases, Or.inl ha'⟩
  · have habsent : document'.member? "ALIAS_KEYS" = none ∨
        document'.member? "ALIAS_KEYS" = some .null := by
      rcases hnone with ha | ha
      · exact Or.inl (hpart.eq_none ha)
      · obtain ⟨v', ha', hsame⟩ := hpart.exists_of_eq_some ha
        have hnull : Value.null.Reordered _ v' := hsame
        cases hnull
        exact Or.inr ha'
    refine ⟨[], ?_, Or.inr ⟨habsent, rfl⟩⟩
    rw [hnil]
    exact .refl (fun _ _ => rfl) .nil

/-- A document in another order has the same tables in another order. -/
theorem HasTables.sameDocument {document document' : Value} {t : Tables}
    (ht : HasTables document t) (h : SameDocument depth document document')
    (hd : document.distinctKeys = true) :
    ∃ t', HasTables document' t' ∧ SameTables depth t t' := by
  have hpart : ∀ key, Option.Rel (SamePart depth key) (document.member? key)
      (document'.member? key) := h.member? (SamePart.refl depth)
  obtain ⟨fields, hf, hfields⟩ := exists_table hd ht.fields (hpart "NODE_FIELDS") fun v => .same v
  obtain ⟨builderKeys, hk, hkeys⟩ :=
    exists_table hd ht.builderKeys (hpart "BUILDER_KEYS") fun _ => rfl
  obtain ⟨aliases, haliases, ha⟩ := exists_aliases ht hd (hpart "ALIAS_KEYS")
  exact ⟨⟨fields, builderKeys, aliases⟩, ⟨hf, hk, ha⟩, ⟨hfields, hkeys, haliases⟩⟩

/-- **The order of entries has no influence on what is read.** A document in another order gives a
registry, and it has like kinds. -/
theorem ofDocument_sameDocument {document document' : Value} {r : Registry}
    (h : SameDocument depth document document') (hd : document.distinctKeys = true)
    (hd' : document'.distinctKeys = true) (hread : ofDocument document = .ok r) :
    ∃ r', ofDocument document' = .ok r' ∧ r.Alike (SameDescription depth) r' := by
  obtain ⟨t, ht, hr⟩ := ofDocument_eq_ok_iff_ofTables.mp hread
  obtain ⟨t', ht', hsame⟩ := ht.sameDocument h hd
  obtain ⟨r', hr', halike⟩ := ofTables_sameTables hsame (ht.distinctKeys hd).1
    (ht'.distinctKeys hd').1 (ht.distinctKeys hd).2 hr
  exact ⟨r', ofDocument_eq_ok_iff_ofTables.mpr ⟨t', ht', hr'⟩, halike⟩

/-! ## 6. A document listed backwards -/

/-- The document with the entries of every level listed backwards, options included. -/
def backwards (document : Value) : Value :=
  document.backwards fun key part =>
    if key = "NODE_FIELDS" then
      part.backwards fun _ fields => fields.backwards fun _ entry => entry.backwards fun key v =>
        if key = "validate" ∨ key = "validator" then v.backwards fun _ option => option else v
    else if key = "BUILDER_KEYS" ∨ key = "ALIAS_KEYS" then part.backwards fun _ names => names
    else part

/-- Listed backwards a document is the same, as far as its keys are distinct. -/
theorem sameDocument_backwards {document : Value} (hd : document.distinctKeys = true) :
    SameDocument 1 document (backwards document) := by
  refine Value.reordered_backwards hd fun key part hpart => ?_
  unfold SamePart
  split
  · refine Value.reordered_backwards hpart fun _ fields hfields => ?_
    refine Value.reordered_backwards hfields fun _ entry hentry => ?_
    refine Value.reordered_backwards hentry fun key v hv => ?_
    unfold SameMember
    split
    · refine Value.reordered_backwards hv fun key option _ => ?_
      exact Validator.SameOption.refl (SameDescription.refl 0) key option
    · rfl
  · split
    · exact Value.reordered_backwards hpart fun _ _ _ => rfl
    · rfl

end Registry

end NodeSchema
