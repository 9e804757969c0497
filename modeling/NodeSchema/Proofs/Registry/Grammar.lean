import NodeSchema.Proofs.Stages
import NodeSchema.Registry.Document
/-!
# The grammar of registry documents

What a registry document may look like and what it says, without regard to how it is read. The
grammar has one relation for each place of a document: a list of names, a field, a table of fields,
the entries of one kind, and the tables themselves. Each comes with the statement that reading
succeeds exactly along it.

* `ListsNames` — a list of names in any of its forms. `namesOf_eq_ok_iff`
* `DescribesField` — the entry of a field. `fieldOf_eq_ok_iff`
* `DescribesKind` — the three entries of a kind. `kindOf_eq_ok_iff`
* `HasTables` — the three tables of a document. `ofDocument_eq_ok_iff`
-/

namespace NodeSchema

/-! ## 1. Lists of names -/

namespace Registry

/-- `ListsNames v names` — the value lists these names. What is falsy lists none; a text lists its
characters, and an object its keys. -/
inductive ListsNames : Value → List String → Prop where
  | nothing {v : Value} (h : v.truthy = false) : ListsNames v []
  | items (names : List String) : ListsNames (.list (names.map .str)) names
  | characters (s : String) : ListsNames (.str s) (s.toList.map String.singleton)
  | keys (members : List (String × Value)) : ListsNames (.object members) (members.map Prod.fst)

/-- `HoldsFields v members` — the value is a table of fields with these members. What is falsy is a
table without members. -/
inductive HoldsFields : Value → List (String × Value) → Prop where
  | nothing {v : Value} (h : v.truthy = false) : HoldsFields v []
  | members (members : List (String × Value)) : HoldsFields (.object members) members

end Registry

/-- Items that are read as names are the texts of these names. -/
theorem NodeKind.checkTexts_eq_ok_iff {i : Nat} {items : List Value} {names : List String} :
    checkTexts i items = .ok names ↔ items = names.map .str := by
  induction items generalizing i names with
  | nil => cases names <;> simp [checkTexts]
  | cons v rest ih =>
    simp only [checkTexts, Checked.map_eq_ok_iff, Checked.both_eq_ok_iff, Checked.under_eq_ok_iff,
      ih]
    constructor
    · rintro ⟨⟨name, names⟩, ⟨hname, hnames⟩, rfl⟩
      cases v with
      | str s => cases hname; rw [List.map_cons, hnames]
      | _ => cases hname
    · intro h
      cases names with
      | nil => cases h
      | cons name names =>
        obtain ⟨rfl, hrest⟩ := List.cons.inj h
        exact ⟨(name, names), ⟨rfl, hrest⟩, rfl⟩

namespace Registry

theorem map_str_inj {names names' : List String} :
    names.map Value.str = names'.map Value.str ↔ names = names' :=
  List.map_inj_right fun _ _ h => Value.str.inj h

theorem listsNames_of_namesOf {v : Value} {names : List String}
    (h : namesOf v = .ok (names.map .str)) : ListsNames v names := by
  unfold namesOf at h
  split at h
  · next hv =>
    split at h
    · cases h; exact .items names
    · next s =>
      have hs : (s.toList.map String.singleton).map Value.str = names.map Value.str := by
        rw [List.map_map]; exact Except.ok.inj h
      rw [← map_str_inj.mp hs]
      exact .characters s
    · next members =>
      have hm : (members.map Prod.fst).map Value.str = names.map Value.str := by
        rw [List.map_map]; exact Except.ok.inj h
      rw [← map_str_inj.mp hm]
      exact .keys members
    · cases h
  · next hv =>
    have hn : names = [] := List.map_eq_nil_iff.mp (Except.ok.inj h).symm
    rw [hn]
    exact .nothing (by simpa using hv)

/-- What lists names is read as these names. -/
theorem namesOf_of_listsNames {v : Value} {names : List String} (h : ListsNames v names) :
    namesOf v = .ok (names.map .str) := by
  cases h with
  | nothing hv => simp [namesOf, hv]
  | items names => cases names <;> rfl
  | characters s =>
    unfold namesOf
    split
    · simp only [List.map_map]; rfl
    · next hs =>
      have : s = "" := by simpa [Value.truthy] using hs
      rw [this]; rfl
  | keys members =>
    cases members with
    | nil => rfl
    | cons e rest => simp [namesOf, Value.truthy]

/-- The items of a value are the texts of the names that it lists. -/
theorem namesOf_eq_ok_iff {v : Value} {names : List String} :
    namesOf v = .ok (names.map .str) ↔ ListsNames v names :=
  ⟨listsNames_of_namesOf, namesOf_of_listsNames⟩

/-- The fields of a kind are read from an object, or from what stands for none. -/
theorem fieldEntriesOf_eq_ok_iff {kind : String} {v : Value} {members : List (String × Value)} :
    fieldEntriesOf kind v = .ok members ↔ HoldsFields v members := by
  constructor
  · intro h
    unfold fieldEntriesOf at h
    split at h
    · split at h
      · cases h; exact .members members
      · cases h
    · next hv => cases h; exact .nothing (by simpa using hv)
  · intro h
    cases h with
    | nothing hv => simp [fieldEntriesOf, hv]
    | members members => cases members <;> rfl

/-! ## 2. Fields -/

/-- The description of the validator of a field: what stands under the key `validate` if that key is
present, even if it is null, otherwise under `validator`. -/
def validatorIn (members : List (String × Value)) : Value :=
  ((lookupEntry "validate" members).or (lookupEntry "validator" members)).getD .null

/-- `DescribesField v field` — the entry says this about a field. What is falsy says nothing: the
field is not constrained, not optional, and has no default. -/
inductive DescribesField : Value → Field → Prop where
  | nothing {v : Value} (h : v.truthy = false) : DescribesField v ⟨none, false, .null⟩
  | members {members : List (String × Value)} {validator : Option Validator}
      (h : Validator.ofNative? (validatorIn members) = .ok validator) :
      DescribesField (.object members)
        { validator
          optional := ((lookupEntry "optional" members).map Value.truthy).getD false
          default := (lookupEntry "default" members).getD .null }

/-- Whether the entry of a field is in order: it is falsy, or an object with a description that can
be read. -/
def AcceptsField (v : Value) : Prop :=
  v.truthy = false ∨
    ∃ members, v = .object members ∧
      ∃ validator, Validator.ofNative? (validatorIn members) = .ok validator

/-- A value is accepted for a field exactly if it describes one. -/
theorem exists_describesField_iff {v : Value} :
    (∃ field, DescribesField v field) ↔ AcceptsField v := by
  constructor
  · rintro ⟨field, h⟩
    cases h with
    | nothing h => exact Or.inl h
    | members h => exact Or.inr ⟨_, rfl, _, h⟩
  · rintro (h | ⟨members, rfl, validator, h⟩)
    · exact ⟨_, .nothing h⟩
    · exact ⟨_, .members h⟩

/-- A field has the validator that is read from its member. -/
theorem validatorOf_eq_ok_iff {members : List (String × Value)} {validator : Option Validator} :
    Field.validatorOf (.object members) = .ok validator ↔
      Validator.ofNative? (validatorIn members) = .ok validator := by
  unfold Field.validatorOf Field.description? validatorIn
  rw [Value.member?_object, Value.member?_object]
  cases lookupEntry "validate" members with
  | some v =>
    simp only [Option.some_or, Option.getD_some]
    cases Validator.ofNative? v <;> simp
  | none =>
    cases lookupEntry "validator" members with
    | some v =>
      simp only [Option.map_some, Option.none_or, Option.getD_some]
      cases Validator.ofNative? v <;> simp
    | none => simp [Validator.ofNative?]

theorem ofEntry_eq_ok_iff {members : List (String × Value)} {field : Field} :
    Field.ofEntry (.object members) = .ok field ↔ DescribesField (.object members) field := by
  rw [Field.ofEntry, Value.isObject, if_pos rfl, bind_eq_ok_iff]
  constructor
  · rintro ⟨validator, hv, h⟩
    cases h
    exact .members (validatorOf_eq_ok_iff.mp hv)
  · intro h
    cases h with
    | nothing h =>
      cases members with
      | nil => exact ⟨none, rfl, rfl⟩
      | cons e rest => cases h
    | members h => exact ⟨_, validatorOf_eq_ok_iff.mpr h, rfl⟩

/-- What is falsy says one thing about a field, in whichever way it is looked at. -/
theorem describesField_falsy_iff {v : Value} {field : Field} (hv : v.truthy = false) :
    DescribesField v field ↔ field = ⟨none, false, .null⟩ := by
  constructor
  · intro h
    cases h with
    | nothing _ => rfl
    | @members members validator h =>
      cases members with
      | nil => cases h; rfl
      | cons e rest => cases hv
  · rintro rfl
    exact .nothing hv

/-- The entry of a field is read as the grammar says. -/
theorem fieldOf_eq_ok_iff {v : Value} {field : Field} :
    fieldOf v = .ok field ↔ DescribesField v field := by
  unfold fieldOf Field.read
  rw [mapError_eq_ok_iff]
  split
  · next hv =>
    cases v with
    | object members => exact ofEntry_eq_ok_iff
    | _ =>
      constructor
      · intro h; cases h
      · intro h
        cases h with
        | nothing h => rw [h] at hv; cases hv
  · next hv =>
    rw [describesField_falsy_iff (by simpa using hv)]
    constructor
    · intro h; cases h; rfl
    · rintro rfl; rfl

/-- Members and fields that belong together, name by name and entry by entry. -/
def FieldsMatch (members : List (String × Value)) (fields : List (String × Field)) : Prop :=
  List.Forall₂ (fun e f => f.1 = e.1 ∧ DescribesField e.2 f.2) members fields

/-- The fields of a kind are read one after the other. -/
theorem fieldsOf_eq_mapM (kind : String) (members : List (String × Value)) :
    fieldsOf kind members = members.mapM fun e =>
      ((fieldOf e.2).map fun field => (e.1, field)).mapError (.invalid kind) := by
  induction members with
  | nil => rfl
  | cons e rest ih =>
    obtain ⟨name, v⟩ := e
    rw [fieldsOf, ih, List.mapM_cons]
    cases fieldOf v <;> rfl

theorem fieldsOf_eq_ok_iff {kind : String} {members : List (String × Value)}
    {fields : List (String × Field)} :
    fieldsOf kind members = .ok fields ↔ FieldsMatch members fields := by
  rw [fieldsOf_eq_mapM, mapM_eq_ok_iff, FieldsMatch]
  simp only [mapError_eq_ok_iff, map_eq_ok_iff, fieldOf_eq_ok_iff]
  constructor
  · refine List.Forall₂.imp ?_
    rintro e _ ⟨field, h, rfl⟩
    exact ⟨rfl, h⟩
  · refine List.Forall₂.imp ?_
    rintro e ⟨name, field⟩ ⟨rfl, h⟩
    exact ⟨field, h, rfl⟩

theorem FieldsMatch.map_fst {members : List (String × Value)} {fields : List (String × Field)}
    (h : FieldsMatch members fields) : fields.map Prod.fst = members.map Prod.fst :=
  map_fst_of_forall₂ (P := fun _ => DescribesField) h

/-- A table of fields is in order when each of its entries is. -/
theorem exists_fieldsMatch_iff {members : List (String × Value)} :
    (∃ fields, FieldsMatch members fields) ↔ ∀ e ∈ members, AcceptsField e.2 := by
  unfold FieldsMatch
  rw [exists_forall₂_iff]
  simp only [Prod.exists, ← exists_describesField_iff]
  constructor
  · intro h e he
    obtain ⟨_, field, _, hf⟩ := h e he
    exact ⟨field, hf⟩
  · intro h e he
    obtain ⟨field, hf⟩ := h e he
    exact ⟨e.1, field, rfl, hf⟩

/-! ## 3. Kinds -/

/-- `DescribesKind t kind keys k fields` — the entries under the name `kind`, of which `keys` is the
one in the table of builder keys, say this about the kind `k`, where `fields` are its fields in the
order of their entries. -/
structure DescribesKind (t : Tables) (kind : String) (keys : Value) (k : NodeKind)
    (fields : List (String × Field)) : Prop where
  name : k.name = kind
  builderKeys : ListsNames keys k.builderKeys
  fields : ∃ members, HoldsFields (entryOf kind t.fields) members ∧ FieldsMatch members fields
  aliases : ListsNames (entryOf kind t.aliases) k.aliases

structure AcceptsKind (t : Tables) (kind : String) (keys : Value) : Prop where
  name : kind ≠ ""
  fields : ∃ members, HoldsFields (entryOf kind t.fields) members ∧
    (∀ e ∈ members, AcceptsField e.2) ∧
    ∃ names, ListsNames keys names ∧ ∀ name ∈ names, name ∈ members.map Prod.fst
  aliases : ∃ names, ListsNames (entryOf kind t.aliases) names

theorem checkName_eq_ok_iff {kind : String} {name : { s : String // s ≠ "" }} :
    NodeKind.checkName (some (.str kind)) = .ok name ↔ name.val = kind := by
  obtain ⟨s, hs⟩ := name
  by_cases h : kind = ""
  · simp only [NodeKind.checkName, h, dif_pos]
    constructor
    · intro hc; cases hc
    · intro hc; exact absurd hc hs
  · simp [NodeKind.checkName, h, eq_comm]

/-- A kind is made of its parts as they are. -/
theorem ofParts_eq_ok_iff {name : { s : String // s ≠ "" }} {keys aliases : List String}
    {fields : Table String Field} {k : NodeKind} :
    NodeKind.ofParts name keys fields aliases = .ok k ↔
      k.name = name.val ∧ k.builderKeys = keys ∧ k.fields = fields ∧ k.aliases = aliases := by
  unfold NodeKind.ofParts
  split
  · next h =>
    constructor
    · intro hk; cases hk; exact ⟨rfl, rfl, rfl, rfl⟩
    · rintro ⟨hn, rfl, rfl, rfl⟩
      obtain ⟨_, _, _, _, _, _⟩ := k
      cases hn
      rfl
  · next h =>
    constructor
    · intro hk; cases hk
    · rintro ⟨_, rfl, rfl, _⟩; exact absurd k.builderKeys_fields h

/-- A kind is put together from names that are texts. -/
theorem assemble_eq_ok_iff {kind : String} {keys aliases : List Value}
    {fields : Table String Field} {k : NodeKind} :
    NodeKind.assemble (some (.str kind)) (some (.list keys)) (.ok fields) (some (.list aliases))
        = .ok k ↔
      k.name = kind ∧ keys = k.builderKeys.map .str ∧ k.fields = fields ∧
        aliases = k.aliases.map .str := by
  unfold NodeKind.assemble
  extract_lets parts
  have parts_eq (name keys' fields' aliases') :
      parts = .ok (name, keys', fields', aliases') ↔
        name.val = kind ∧ keys = keys'.map .str ∧ fields = fields' ∧
          aliases = aliases'.map .str := by
    simp only [parts, Checked.both_eq_ok_iff, Checked.under_eq_ok_iff, checkName_eq_ok_iff,
      NodeKind.checkNames, NodeKind.checkTexts_eq_ok_iff, Checked.ok.injEq]
  -- The four parts are read side by side, and only then are the keys compared with the fields.
  cases hparts : parts with
  | ok p =>
    obtain ⟨name, keys', fields', aliases'⟩ := p
    obtain ⟨hn, rfl, rfl, rfl⟩ := (parts_eq _ _ _ _).mp hparts
    rw [Checked.toExcept_eq_ok_iff, ofParts_eq_ok_iff, hn, map_str_inj, map_str_inj]
    simp only [eq_comm]
  | refused first others =>
    constructor
    · intro hk; cases hk
    · rintro ⟨hn, hk, hf, ha⟩
      have := (parts_eq ⟨k.name, k.name_ne⟩ _ _ _).mpr ⟨hn, hk, hf.symm, ha⟩
      rw [hparts] at this
      cases this

/-- The entries of a kind are read as the grammar says. -/
theorem kindOf_eq_ok_iff {t : Tables} {kind : String} {keys : Value} {k : NodeKind} :
    kindOf t kind keys = .ok k ↔
      ∃ fields, DescribesKind t kind keys k fields ∧ k.fields = .ofList fields := by
  simp only [kindOf, bind_eq_ok_iff, mapError_eq_ok_iff, assemble_eq_ok_iff,
    fieldEntriesOf_eq_ok_iff, fieldsOf_eq_ok_iff]
  constructor
  · rintro ⟨members, hm, _, hk, fields, hf, _, ha, hn, rfl, hfields, rfl⟩
    exact ⟨fields,
      ⟨hn, namesOf_eq_ok_iff.mp hk, ⟨members, hm, hf⟩, namesOf_eq_ok_iff.mp ha⟩, hfields⟩
  · rintro ⟨fields, ⟨hn, hk, ⟨members, hm, hf⟩, ha⟩, hfields⟩
    exact ⟨members, hm, _, namesOf_eq_ok_iff.mpr hk, fields, hf, _, namesOf_eq_ok_iff.mpr ha,
      hn, rfl, hfields, rfl⟩

/-- The entries of a kind are read exactly when they are in order. -/
theorem exists_kindOf_iff {t : Tables} {kind : String} {keys : Value} :
    (∃ k, kindOf t kind keys = .ok k) ↔ AcceptsKind t kind keys := by
  simp only [kindOf_eq_ok_iff]
  constructor
  · rintro ⟨k, fields, ⟨rfl, hk, ⟨members, hm, hf⟩, ha⟩, hfields⟩
    refine ⟨k.name_ne, ⟨members, hm, exists_fieldsMatch_iff.mp ⟨fields, hf⟩, _, hk, ?_⟩, _, ha⟩
    intro name hname
    -- The names of the fields are those of the members, in whatever order they came in.
    have := k.builderKeys_fields name hname
    rwa [hfields, Table.mem_keys_ofList, hf.map_fst] at this
  · rintro ⟨hn, ⟨members, hm, hf, keys', hk, hkeys⟩, aliases, ha⟩
    obtain ⟨fields, hf⟩ := exists_fieldsMatch_iff.mpr hf
    let k : NodeKind :=
      { name := kind, builderKeys := keys', fields := .ofList fields, aliases, name_ne := hn
        builderKeys_fields := by
          intro name hname
          rw [Table.mem_keys_ofList, hf.map_fst]
          exact hkeys name hname }
    exact ⟨k, fields, ⟨rfl, hk, ⟨members, hm, hf⟩, ha⟩, rfl⟩

/-! ## 4. Documents -/

/-- `HasTables document t` — the document is an object with these tables. The aliases may be left
out, which is a table without entries. -/
structure HasTables (document : Value) (t : Tables) : Prop where
  fields : document.member? "NODE_FIELDS" = some (.object t.fields)
  builderKeys : document.member? "BUILDER_KEYS" = some (.object t.builderKeys)
  aliases : document.member? "ALIAS_KEYS" = some (.object t.aliases) ∨
    (document.member? "ALIAS_KEYS" = none ∨ document.member? "ALIAS_KEYS" = some .null) ∧
      t.aliases = []

/-- A table that must be there must be an object. -/
theorem requiredTable_eq_ok_iff {document : Value} {key : String} {table : List (String × Value)} :
    requiredTable document key = .ok table ↔ document.member? key = some (.object table) := by
  unfold requiredTable
  cases document.member? key with
  | none => simp
  | some v => cases v <;> simp

/-- A table that need not be there may also be null, and is empty then. -/
theorem optionalTable_eq_ok_iff {document : Value} {key : String} {table : List (String × Value)} :
    optionalTable document key = .ok table ↔
      document.member? key = some (.object table) ∨
        (document.member? key = none ∨ document.member? key = some .null) ∧ table = [] := by
  unfold optionalTable
  cases document.member? key with
  | none => simp [eq_comm]
  | some v => cases v <;> simp [eq_comm]

theorem isObject_of_member? {document v : Value} {key : String}
    (h : document.member? key = some v) : document.isObject = true := by
  cases document with
  | object members => rfl
  | _ => cases h

/-- The tables of a document are found before anything is read from them. -/
theorem ofDocument_eq_ok_iff_ofTables {document : Value} {r : Registry} :
    ofDocument document = .ok r ↔ ∃ t, HasTables document t ∧ ofTables t = .ok r := by
  unfold ofDocument
  split
  · simp only [bind_eq_ok_iff, requiredTable_eq_ok_iff, optionalTable_eq_ok_iff]
    constructor
    · rintro ⟨fields, hf, keys, hk, aliases, ha, h⟩
      exact ⟨⟨fields, keys, aliases⟩, ⟨hf, hk, ha⟩, h⟩
    · rintro ⟨t, ⟨hf, hk, ha⟩, h⟩
      exact ⟨_, hf, _, hk, _, ha, h⟩
  · next hd =>
    constructor
    · intro h; cases h
    · rintro ⟨t, ⟨hf, _, _⟩, _⟩
      exact absurd (isObject_of_member? hf) hd

/-- The tables of a document decide what it gives, an error too. -/
theorem HasTables.ofDocument_eq {document : Value} {t : Tables} (h : HasTables document t) :
    ofDocument document = ofTables t := by
  rw [ofDocument, if_pos (isObject_of_member? h.fields), requiredTable_eq_ok_iff.mpr h.fields,
    requiredTable_eq_ok_iff.mpr h.builderKeys, optionalTable_eq_ok_iff.mpr h.aliases]
  rfl

/-- The kinds are read one after the other. -/
theorem kindsOf_eq_mapM (t : Tables) (entries : List (String × Value)) :
    kindsOf t entries = entries.mapM fun e => kindOf t e.1 e.2 := by
  induction entries with
  | nil => rfl
  | cons e rest ih =>
    obtain ⟨kind, keys⟩ := e
    rw [kindsOf, ih, List.mapM_cons]

/-- The kinds of a registry are read one by one, in the order of the builder keys. -/
theorem ofTables_eq_ok_iff {t : Tables} {r : Registry} :
    ofTables t = .ok r ↔
      ∃ kinds, List.Forall₂ (fun e k => kindOf t e.1 e.2 = .ok k) t.builderKeys kinds ∧
        r = ofKinds kinds := by
  rw [ofTables, kindsOf_eq_mapM, bind_eq_ok_iff]
  simp only [mapM_eq_ok_iff, pure_eq_ok, Except.ok.injEq, @eq_comm _ _ r]

/-- Tables are read exactly when the entries of every kind with an entry in the table of builder
keys are in order. -/
theorem exists_ofTables_iff {t : Tables} :
    (∃ r, ofTables t = .ok r) ↔ ∀ e ∈ t.builderKeys, AcceptsKind t e.1 e.2 := by
  simp only [← exists_kindOf_iff, ← exists_forall₂_iff, ofTables_eq_ok_iff]
  constructor
  · rintro ⟨r, kinds, h, _⟩; exact ⟨kinds, h⟩
  · rintro ⟨kinds, h⟩; exact ⟨_, kinds, h, rfl⟩

end Registry

end NodeSchema
