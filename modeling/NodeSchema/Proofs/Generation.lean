import NodeSchema.CommandLine.Run
import NodeSchema.Proofs.Resolving
/-!
# What generation gives

Generation asks the registry for kinds, for fields of kinds, and for types, and each of these
look-ups may fail. None of them does: the kinds are those that the registry lists, the fields of a
class are fields of its kind, and so are the keys that a builder takes, which is part of what a node
kind is. So both artifacts can be named without running anything.

* `NodeKind.mem_orderedFields`, `NodeKind.builderKeys_fields` — only fields of a kind are asked for.
* `Declarations.ofRegistry_gives`, `Wrapper.ofRegistry_gives` — the two artifacts, for any resolver.
* `generation_never_fails` — all of it, from any findings on.
-/

namespace NodeSchema

open Resolving

/-! ## 1. Kinds and fields that are there -/

@[simp] theorem mem_lastOccurrences {a : String} {l : List String} :
    a ∈ lastOccurrences l ↔ a ∈ l := by
  induction l with
  | nil => rfl
  | cons b rest ih =>
    unfold lastOccurrences
    split
    · next hb =>
      rw [ih, List.mem_cons]
      constructor
      · exact Or.inr
      · rintro (rfl | h) <;> assumption
    · simp [ih]

/-- The fields of a kind in order are its fields. -/
theorem NodeKind.mem_orderedFields {k : NodeKind} {name : String} :
    name ∈ k.orderedFields ↔ name ∈ k.fields.keys := by
  simp only [orderedFields, List.mem_append, mem_lastOccurrences, mem_sortNames, List.mem_filter,
    decide_eq_true_eq]
  constructor
  · rintro (h | h)
    · exact k.builderKeys_fields name h
    · exact h.1
  · intro h
    by_cases hb : name ∈ k.builderKeys
    · exact Or.inl hb
    · exact Or.inr ⟨h, hb⟩

/-- The field of a kind with this name; one that is not there says nothing. -/
def NodeKind.fieldNamed (k : NodeKind) (name : String) : Field :=
  (k.fields.get? name).getD default

theorem NodeKind.field_of_mem {k : NodeKind} {name : String} (h : name ∈ k.fields.keys) :
    k.field name = .ok (k.fieldNamed name) := by
  obtain ⟨f, hf⟩ := Option.isSome_iff_exists.mp ((k.fields.isSome_get? name).mpr h)
  unfold field fieldNamed
  rw [hf]
  rfl

namespace Registry

variable {r : Registry} {k : NodeKind} {kind : String}

def sorted (r : Registry) : List NodeKind := r.kindNames.filterMap r.kinds.get?

theorem mem_kindNames : kind ∈ r.kindNames ↔ kind ∈ r.kinds.keys := mem_sortNames

theorem name_of_get? (h : r.kinds.get? kind = some k) : k.name = kind :=
  r.named _ (mem_of_lookupEntry h)

theorem get_of_mem_sorted (h : k ∈ r.sorted) : r.get k.name = .ok k := by
  obtain ⟨kind, _, hk⟩ := List.mem_filterMap.mp h
  rw [name_of_get? hk, get, hk]

theorem mem_sorted_of_get (h : r.get kind = .ok k) : k ∈ r.sorted ∧ k.name = kind := by
  have hk : r.kinds.get? kind = some k := by
    unfold get at h
    split at h
    · next hk => cases h; exact hk
    · cases h
  have hmem : kind ∈ r.kindNames :=
    mem_kindNames.mpr ((r.kinds.isSome_get? kind).mp (by rw [hk]; rfl))
  exact ⟨List.mem_filterMap.mpr ⟨kind, hmem, hk⟩, name_of_get? hk⟩

theorem field_of_mem {name : String} (hk : k ∈ r.sorted) (h : name ∈ k.fields.keys) :
    r.field k.name name = .ok (k.fieldNamed name) := by
  rw [field, get_of_mem_sorted hk]
  exact k.field_of_mem h

theorem map_name_filterMap {names : List String} (h : ∀ kind ∈ names, kind ∈ r.kinds.keys) :
    (names.filterMap r.kinds.get?).map NodeKind.name = names := by
  induction names with
  | nil => rfl
  | cons kind rest ih =>
    obtain ⟨hkind, hrest⟩ := List.forall_mem_cons.mp h
    obtain ⟨k, hk⟩ := Option.isSome_iff_exists.mp ((r.kinds.isSome_get? kind).mpr hkind)
    rw [List.filterMap_cons_some hk, List.map_cons, ih hrest, name_of_get? hk]

/-- Every name in the list of kinds is that of a kind. -/
theorem map_name_sorted (r : Registry) : r.sorted.map NodeKind.name = r.kindNames :=
  map_name_filterMap fun _ => mem_kindNames.mp

end Registry

/-! ## 2. Types -/

namespace TypeResolver

def typeOf (t : TypeResolver) (k : NodeKind) (name : String) : String :=
  (t.overrideFor? k.name name).getD (t.typeOfField (k.fieldNamed name))

/-- A field of the registry resolves to its type, and what is found depends on the field alone. -/
theorem resolve_of_mem {t : TypeResolver} {k : NodeKind} {name : String}
    (hk : k ∈ t.registry.sorted) (h : name ∈ k.fields.keys) :
    (t.resolve k.name name).Gives (.ok (t.typeOf k name)) (t.foundAt k.name name) := by
  have hresolve := t.resolve_gives k.name name
  rwa [t.answer_of_field _ _ (Registry.field_of_mem hk h)] at hresolve

end TypeResolver

/-! ## 3. Declarations -/

section

variable (t : TypeResolver) (c : Config)

def NodeKind.shownFields (k : NodeKind) (c : Config) : List String :=
  k.orderedFields.filter (· ∉ c.skippedFields)

def FieldDeclaration.expected (k : NodeKind) (name : String) : FieldDeclaration where
  name := name
  marker := (k.fieldNamed name).marker
  type := t.typeOf k name

def ClassDeclaration.ofFields (k : NodeKind) (fields : List FieldDeclaration) :
    ClassDeclaration where
  kind := k.name
  fields := fields
  aliases := k.aliases ++ [c.universalAlias]

def ClassDeclaration.expected (k : NodeKind) : ClassDeclaration :=
  .ofFields c k ((k.shownFields c).map (FieldDeclaration.expected t k))

def ClassDeclaration.found (k : NodeKind) : Findings :=
  .concat ((k.shownFields c).map (t.foundAt k.name))

def Declarations.ofClasses (classes : List ClassDeclaration) : Declarations where
  disclaimer := c.disclaimer
  classes := classes
  aliases := AliasMap.ofClasses classes
  unions := UnionDeclaration.ofAliases c (AliasMap.ofClasses classes)

def Declarations.expected : Declarations :=
  .ofClasses c (t.registry.sorted.map (ClassDeclaration.expected t c))

def Declarations.found : Findings :=
  .concat (t.registry.sorted.map (ClassDeclaration.found t c))

variable {t} {k : NodeKind} (hk : k ∈ t.registry.sorted)

include hk in
theorem FieldDeclaration.ofName_gives {name : String} (h : name ∈ k.fields.keys) :
    (FieldDeclaration.ofName t k name).Gives (.ok (FieldDeclaration.expected t k name))
      (t.foundAt k.name name) := by
  unfold ofName
  rw [← Findings.append_none (t.foundAt k.name name)]
  refine (TypeResolver.resolve_of_mem hk h).bind ?_
  exact .after_lookup (NodeKind.field_of_mem h) (.pure _)

include hk in

/-- The class of a kind, and what is found on the way. -/
theorem ClassDeclaration.ofKind_gives :
    (ClassDeclaration.ofKind t c k.name).Gives (.ok (ClassDeclaration.expected t c k))
      (ClassDeclaration.found t c k) := by
  unfold ofKind
  refine .after_lookup (Registry.get_of_mem_sorted hk) ?_
  have hfields : ∀ name ∈ k.shownFields c,
      (FieldDeclaration.ofName t k name).Gives (.ok (FieldDeclaration.expected t k name))
        (t.foundAt k.name name) := by
    intro name hname
    have hmem : name ∈ k.fields.keys :=
      NodeKind.mem_orderedFields.mp (List.mem_filter.mp hname).1
    exact FieldDeclaration.ofName_gives hk hmem
  exact (Gives.mapM hfields).return (ClassDeclaration.ofFields c k)

omit hk in
/-- The declarations, whatever the resolver and the settings. -/
theorem Declarations.ofRegistry_gives :
    (Declarations.ofRegistry t c).Gives (.ok (Declarations.expected t c))
      (Declarations.found t c) := by
  unfold ofRegistry
  rw [← Registry.map_name_sorted, List.mapM_map]
  have hclasses : ∀ k ∈ t.registry.sorted,
      (ClassDeclaration.ofKind t c k.name).Gives (.ok (ClassDeclaration.expected t c k))
        (ClassDeclaration.found t c k) := fun k hk => ClassDeclaration.ofKind_gives c hk
  exact (Gives.mapM hclasses).return (Declarations.ofClasses c)

end

/-! ## 4. The wrapper module -/

section

variable (t : TypeResolver) (c : Config)

def Parameter.expected (k : NodeKind) (name : String) : Parameter where
  name := parameterName c name
  marker := (k.fieldNamed name).marker
  type := t.typeOf k name

def Signature.expected (k : NodeKind) : Signature where
  kind := k.name
  parameters := k.builderKeys.map (Parameter.expected t c k)

def Signature.found (k : NodeKind) : Findings := .concat (k.builderKeys.map (t.foundAt k.name))

def Wrapper.ofSignatures (signatures : List Signature) : Wrapper where
  disclaimer := c.disclaimer
  delegateSetter := c.delegateSetter
  aggregateName := c.aggregateName
  members := Member.ofSignatures signatures

def Wrapper.expected : Wrapper :=
  .ofSignatures c (t.registry.sorted.map (Signature.expected t c))

def Wrapper.found : Findings := .concat (t.registry.sorted.map (Signature.found t))

variable {t} {k : NodeKind} (hk : k ∈ t.registry.sorted)

include hk in
theorem Parameter.ofName_gives {name : String} (h : name ∈ k.fields.keys) :
    (Parameter.ofName t c k name).Gives (.ok (Parameter.expected t c k name))
      (t.foundAt k.name name) := by
  unfold ofName
  refine .after_lookup (NodeKind.field_of_mem h) ?_
  exact (TypeResolver.resolve_of_mem hk h).return fun type =>
    ({ name := parameterName c name, marker := (k.fieldNamed name).marker, type } : Parameter)

include hk in
/-- A builder takes fields of its kind, repeated or not. -/
theorem Signature.ofKind_gives :
    (Signature.ofKind t c k.name).Gives (.ok (Signature.expected t c k))
      (Signature.found t k) := by
  unfold ofKind
  refine .after_lookup (Registry.get_of_mem_sorted hk) ?_
  -- This is where the keys of the builder have to be fields.
  have hparameters : ∀ name ∈ k.builderKeys,
      (Parameter.ofName t c k name).Gives (.ok (Parameter.expected t c k name))
        (t.foundAt k.name name) := fun name hname =>
    Parameter.ofName_gives c hk (k.builderKeys_fields name hname)
  exact (Gives.mapM hparameters).return fun parameters =>
    ({ kind := k.name, parameters } : Signature)

omit hk in
/-- The wrapper module, whatever the resolver and the settings. -/
theorem Wrapper.ofRegistry_gives :
    (Wrapper.ofRegistry t c).Gives (.ok (Wrapper.expected t c)) (Wrapper.found t) := by
  unfold ofRegistry
  rw [← Registry.map_name_sorted, List.mapM_map]
  have hsignatures : ∀ k ∈ t.registry.sorted,
      (Signature.ofKind t c k.name).Gives (.ok (Signature.expected t c k))
        (Signature.found t k) := fun k hk => Signature.ofKind_gives c hk
  exact (Gives.mapM hsignatures).return (Wrapper.ofSignatures c)

end

/-! ## 5. Both artifacts -/

namespace Generation

variable (r : Registry) (c : Config)

def found : Findings :=
  .concat
    [⟨[], [⟨.debug, .runner, "emitting declarations for " ++ toString r.size ++ " node kinds"⟩]⟩,
      Declarations.found (resolver r c) c,
      ⟨[], [⟨.debug, .runner, "emitting wrapper module"⟩]⟩,
      Wrapper.found (resolver r c)]

/-- The result of a run with these findings at its end. -/
def expected (after : Findings) : Generation where
  declarations := Declarations.expected (resolver r c) c
  wrapper := Wrapper.expected (resolver r c) c
  diagnostics := Diagnostic.firsts after.diagnostics

/-- A run gives both artifacts, and the diagnostics that there are at its end. -/
theorem ofRegistry_run (before : Findings) :
    (ofRegistry r c).run.run before =
      (.ok (expected r c (before.append (found r c))), before.append (found r c)) := by
  unfold ofRegistry
  rw [(Gives.log _ _ _).run_bind, (Declarations.ofRegistry_gives c).run_bind,
    (Gives.log _ _ _).run_bind, (Wrapper.ofRegistry_gives c).run_bind]
  simp only [found, Findings.concat_cons, Findings.concat_nil, Findings.append_none,
    ← Findings.append_assoc]
  rfl

theorem ofRegistry_run_none :
    (ofRegistry r c).run.run .none = (.ok (expected r c (found r c)), found r c) := by
  rw [ofRegistry_run, Findings.none_append]

end Generation

/-- **Generation never fails.** A run gives both artifacts whatever has been found before. So do the
declarations and the wrapper module by themselves, for any resolver on the registry, whatever its
overrides are, and so do the signature of every kind and the type of every field. -/
theorem generation_never_fails (r : Registry) (c : Config) :
    (∀ before, (Generation.ofRegistry r c).run.run before =
      (.ok (Generation.expected r c (before.append (Generation.found r c))),
        before.append (Generation.found r c))) ∧
    ∀ t : TypeResolver, t.registry = r →
      (Declarations.ofRegistry t c).Gives (.ok (Declarations.expected t c))
        (Declarations.found t c) ∧
      (Wrapper.ofRegistry t c).Gives (.ok (Wrapper.expected t c)) (Wrapper.found t) ∧
      ∀ kind k, r.get kind = .ok k →
        (Signature.ofKind t c kind).Gives (.ok (Signature.expected t c k))
          (Signature.found t k) ∧
        ∀ name field, k.field name = .ok field →
          (t.resolve kind name).Gives
            (.ok ((t.overrideFor? kind name).getD (t.typeOfField field)))
            (t.foundAt kind name) := by
  refine ⟨Generation.ofRegistry_run r c, ?_⟩
  rintro t rfl
  refine ⟨Declarations.ofRegistry_gives c, Wrapper.ofRegistry_gives c, ?_⟩
  intro kind k hget
  obtain ⟨hk, rfl⟩ := Registry.mem_sorted_of_get hget
  refine ⟨Signature.ofKind_gives c hk, ?_⟩
  intro name field hfield
  have hregistry : t.registry.field k.name name = .ok field := by
    rw [Registry.field, hget]
    exact hfield
  have hresolve := t.resolve_gives k.name name
  rwa [t.answer_of_field _ _ hregistry] at hresolve

/-- No run of the program ends over something that the registry lacks. -/
theorem CommandLine.run_ending_ne_lookup {args : List String} {t : FileTree}
    {e : Registry.LookupError} : (run args t).ending ≠ .error (.lookup e) := by
  unfold run
  split
  · simp
  · simp
  · next o _ =>
    unfold loadAndGenerate
    split
    · next r _ =>
      unfold generate
      dsimp only
      rw [Generation.ofRegistry_run]
      dsimp only
      split <;> simp
    · split <;> simp

end NodeSchema
