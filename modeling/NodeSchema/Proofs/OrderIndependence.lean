import NodeSchema.Proofs.Diagnostics
import NodeSchema.Proofs.Registry.Reordering
/-!
# The output does not depend on the order of a document

A registry read from a document in another order has the same kinds with the same fields, and
nothing that is made of it goes by the order in which they came in: kinds and fields are listed in
an order of their own, and aliases in the order in which the sorted kinds name them. So a run gives
the same two artifacts and reports the same fields in the same order.

* `Registry.Alike.forall₂_sorted` — the kinds of like registries correspond one by one.
* `Registry.Alike.declarations_eq`, `Registry.Alike.wrapper_eq` — the artifacts are equal.
* `Registry.Alike.forall₂_diagnostics` — the diagnostics correspond one by one.
* `output_independent_of_order` — two documents, two runs, the same output.
-/

namespace NodeSchema

open Generation (resolver)
open Validator (SameDescription)

variable {D : Value → Value → Prop}

/-- Lists with equal results for what belongs together. -/
theorem map_eq_of_forall₂ {α β γ : Type} {R : α → β → Prop} {l : List α} {l' : List β} {f : α → γ}
    {g : β → γ} (h : List.Forall₂ R l l') (hfg : ∀ a b, R a b → g b = f a) :
    l'.map g = l.map f := by
  induction h with
  | nil => rfl
  | cons hab _ ih => rw [List.map_cons, List.map_cons, hfg _ _ hab, ih]

/-- Diagnostics on one field, with like validators. -/
structure Diagnostic.Alike (D : Value → Value → Prop) (d d' : Diagnostic) : Prop where
  kind : d'.kind = d.kind
  field : d'.field = d.field
  blamed : Validator.Alike D d.blamed d'.blamed

/-! ## 1. Fields and kinds -/

namespace Field.Alike

variable {f f' : Field} (h : f.Alike D f') (r r' : Registry) (c : Config)

include h

theorem marker_eq : f'.marker = f.marker := by
  unfold Field.marker Field.isOptional Field.hasDefault
  rw [h.optional, h.default]

/-- Like fields have the same type. -/
theorem typeOfField_eq : (resolver r' c).typeOfField f' = (resolver r c).typeOfField f := by
  unfold TypeResolver.typeOfField
  cases hv : f.validator with
  | none => rw [h.validator.eq_none hv]; rfl
  | some v =>
    obtain ⟨v', hv', halike⟩ := h.validator.exists_of_eq_some hv
    have htype := halike.sameType c.sequenceType
    rw [hv']
    dsimp only [resolver]
    generalize v.typeText c.sequenceType = x, v'.typeText c.sequenceType = x' at htype ⊢
    cases htype <;> rfl

/-- At like fields there are like diagnostics or none. -/
theorem diagnosticAt_rel (kind name : String) :
    Option.Rel (Diagnostic.Alike D)
      ((resolver r c).foundAtField kind name f).diagnostics.head?
      ((resolver r' c).foundAtField kind name f').diagnostics.head? := by
  unfold TypeResolver.foundAtField
  cases hv : f.validator with
  | none => rw [h.validator.eq_none hv]; exact .none
  | some v =>
    obtain ⟨v', hv', halike⟩ := h.validator.exists_of_eq_some hv
    have htype := halike.sameType c.sequenceType
    rw [hv']
    dsimp only [resolver]
    generalize v.typeText c.sequenceType = x, v'.typeText c.sequenceType = x' at htype ⊢
    cases htype with
    | text s => exact .none
    | error hblamed => exact .some ⟨rfl, rfl, hblamed⟩

end Field.Alike

namespace NodeKind.Alike

variable {k k' : NodeKind} (h : k.Alike D k')

include h

theorem shownFields_eq (c : Config) : k'.shownFields c = k.shownFields c := by
  unfold NodeKind.shownFields
  rw [orderedFields_congr h.builderKeys h.fields.keys]

theorem fieldNamed_alike (name : String) : (k.fieldNamed name).Alike D (k'.fieldNamed name) :=
  (h.fields.get? name).getD (.refl _)

/-- Fields of kinds that are alike have the same type, in whatever registries these are. -/
theorem typeOf_eq (r r' : Registry) (c : Config) (name : String) :
    (resolver r' c).typeOf k' name = (resolver r c).typeOf k name := by
  unfold TypeResolver.typeOf
  rw [h.name, (h.fieldNamed_alike name).typeOfField_eq r r' c]
  rfl

/-- Kinds that are alike have the same class. -/
theorem classDeclaration_eq (r r' : Registry) (c : Config) :
    ClassDeclaration.expected (resolver r' c) c k' =
      ClassDeclaration.expected (resolver r c) c k := by
  have hfield : FieldDeclaration.expected (resolver r' c) k' =
      FieldDeclaration.expected (resolver r c) k := by
    funext name
    unfold FieldDeclaration.expected
    rw [(h.fieldNamed_alike name).marker_eq, h.typeOf_eq r r' c]
  unfold ClassDeclaration.expected ClassDeclaration.ofFields
  rw [h.shownFields_eq, h.name, h.aliases, hfield]

/-- Kinds that are alike have builders with the same signature. -/
theorem signature_eq (r r' : Registry) (c : Config) :
    Signature.expected (resolver r' c) c k' = Signature.expected (resolver r c) c k := by
  have hparameter : Parameter.expected (resolver r' c) c k' =
      Parameter.expected (resolver r c) c k := by
    funext name
    unfold Parameter.expected
    rw [(h.fieldNamed_alike name).marker_eq, h.typeOf_eq r r' c]
  unfold Signature.expected
  rw [h.name, h.builderKeys, hparameter]

end NodeKind.Alike

/-! ## 2. Registries -/

namespace Registry.Alike

variable {r r' : Registry} (h : r.Alike D r') (c : Config)

include h

theorem forall₂_sorted : List.Forall₂ (NodeKind.Alike D) r.sorted r'.sorted := by
  unfold Registry.sorted
  rw [← kindNames_congr h.keys]
  refine List.rel_filterMap (R := Eq) ?_ ?_
  · rintro kind _ rfl
    exact h.get? kind
  · exact List.forall₂_same.mpr fun _ _ => rfl

theorem declarations_eq :
    Declarations.expected (resolver r' c) c = Declarations.expected (resolver r c) c := by
  unfold Declarations.expected
  exact congrArg _ (map_eq_of_forall₂ h.forall₂_sorted fun k k' hk => hk.classDeclaration_eq r r' c)

theorem wrapper_eq : Wrapper.expected (resolver r' c) c = Wrapper.expected (resolver r c) c := by
  unfold Wrapper.expected
  exact congrArg _ (map_eq_of_forall₂ h.forall₂_sorted fun k k' hk => hk.signature_eq r r' c)

/-- Both runs visit the same places in the same order. -/
theorem shownPlaces_eq : r'.shownPlaces c = r.shownPlaces c := by
  unfold Registry.shownPlaces
  rw [List.flatMap_def, List.flatMap_def]
  refine congrArg _ (map_eq_of_forall₂ h.forall₂_sorted fun k k' hk => ?_)
  rw [hk.shownFields_eq, hk.name]

theorem skippedKeyPlaces_eq : r'.skippedKeyPlaces c = r.skippedKeyPlaces c := by
  unfold Registry.skippedKeyPlaces
  rw [List.flatMap_def, List.flatMap_def]
  refine congrArg _ (map_eq_of_forall₂ h.forall₂_sorted fun k k' hk => ?_)
  rw [hk.builderKeys, hk.name]

/-- A field is found in both registries or in neither. -/
theorem field_cases (kind name : String) :
    (∃ f f', r.field kind name = .ok f ∧ r'.field kind name = .ok f' ∧ f.Alike D f') ∨
      ∃ e e', r.field kind name = .error e ∧ r'.field kind name = .error e' := by
  unfold Registry.field Registry.get
  cases hk : r.kinds.get? kind with
  | none =>
    rw [(h.get? kind).eq_none hk]
    exact Or.inr ⟨_, _, rfl, rfl⟩
  | some k =>
    obtain ⟨k', hk', hkind⟩ := (h.get? kind).exists_of_eq_some hk
    rw [hk']
    show (∃ f f', k.field name = .ok f ∧ k'.field name = .ok f' ∧ _) ∨
      ∃ e e', k.field name = .error e ∧ k'.field name = .error e'
    unfold NodeKind.field
    cases hf : k.fields.get? name with
    | none =>
      rw [(hkind.fields.get? name).eq_none hf]
      exact Or.inr ⟨_, _, rfl, rfl⟩
    | some f =>
      obtain ⟨f', hf', hfield⟩ := (hkind.fields.get? name).exists_of_eq_some hf
      rw [hf']
      exact Or.inl ⟨f, f', rfl, rfl, hfield⟩

/-- Where there is a diagnostic for one registry, there is one that is alike for the other. -/
theorem diagnosticAt_rel (place : String × String) :
    Option.Rel (Diagnostic.Alike D) ((resolver r c).diagnosticAt place)
      ((resolver r' c).diagnosticAt place) := by
  obtain ⟨kind, name⟩ := place
  unfold TypeResolver.diagnosticAt TypeResolver.foundAt
  have hoverride : (resolver r' c).overrideFor? kind name = (resolver r c).overrideFor? kind name :=
    rfl
  rw [hoverride]
  cases (resolver r c).overrideFor? kind name with
  | some type => exact .none
  | none =>
    dsimp only [resolver]
    rcases h.field_cases kind name with ⟨f, f', hf, hf', hfield⟩ | ⟨e, e', he, he'⟩
    · rw [hf, hf']
      exact hfield.diagnosticAt_rel r r' c kind name
    · rw [he, he']
      exact .none

/-- Like registries have diagnostics on the same fields in the same order. -/
theorem forall₂_diagnostics :
    List.Forall₂ (Diagnostic.Alike D)
      (Generation.expected r c (Generation.found r c)).diagnostics
      (Generation.expected r' c (Generation.found r' c)).diagnostics := by
  rw [Generation.diagnostics_expected, Generation.diagnostics_expected, h.shownPlaces_eq,
    h.skippedKeyPlaces_eq]
  refine List.rel_filterMap (R := Eq) ?_ ?_
  · rintro place _ rfl
    exact h.diagnosticAt_rel c place
  · exact List.forall₂_same.mpr fun _ _ => rfl

end Registry.Alike

/-! ## 3. Documents -/

/-- Diagnostics with validators that keep the same values are the same. -/
theorem Diagnostic.Alike.eq_of_depth_zero {d d' : Diagnostic}
    (h : d.Alike (SameDescription 0) d') : d' = d := by
  have hblamed : d'.blamed = d.blamed := (h.blamed.mono fun _ _ hv => hv).eq_of_eq
  cases d
  cases d'
  cases h.kind
  cases h.field
  cases hblamed
  rfl

/-- **The order of a document has no influence on the output.** Of two documents that differ in
nothing but the order of entries, none of which repeats a key, the one is read exactly when the
other is. The two registries give the same declarations and the same wrapper module for any
settings, and diagnostics on the same fields in the same order. Where the descriptions of validators
are not reordered inside, the diagnostics are the same; otherwise a description of no known shape is
reported in the order of its document. -/
theorem output_independent_of_order {depth : Nat} {document document' : Value}
    (h : Registry.SameDocument depth document document') (hd : document.distinctKeys = true)
    (hd' : document'.distinctKeys = true) :
    ((∃ r, Registry.ofDocument document = .ok r) ↔ ∃ r', Registry.ofDocument document' = .ok r') ∧
    ∀ r r' c, Registry.ofDocument document = .ok r → Registry.ofDocument document' = .ok r' →
      ∃ g g' after after',
        (Generation.ofRegistry r c).run.run .none = (.ok g, after) ∧
        (Generation.ofRegistry r' c).run.run .none = (.ok g', after') ∧
        g'.declarations = g.declarations ∧ g'.wrapper = g.wrapper ∧
        g'.artifacts c = g.artifacts c ∧
        List.Forall₂ (Diagnostic.Alike (SameDescription depth)) g.diagnostics g'.diagnostics ∧
        (depth = 0 → g'.diagnostics = g.diagnostics) := by
  constructor
  · constructor
    · rintro ⟨r, hr⟩
      obtain ⟨r', hr', _⟩ := Registry.ofDocument_sameDocument h hd hd' hr
      exact ⟨r', hr'⟩
    · rintro ⟨r', hr'⟩
      obtain ⟨r, hr, _⟩ := Registry.ofDocument_sameDocument h.symm hd' hd hr'
      exact ⟨r, hr⟩
  · intro r r' c hr hr'
    obtain ⟨_, hread, halike⟩ := Registry.ofDocument_sameDocument h hd hd' hr
    cases hr'.symm.trans hread
    have hdeclarations := halike.declarations_eq c
    have hwrapper := halike.wrapper_eq c
    refine ⟨_, _, _, _, Generation.ofRegistry_run_none r c, Generation.ofRegistry_run_none r' c,
      hdeclarations, hwrapper, ?_, halike.forall₂_diagnostics c, ?_⟩
    · show [Artifact.mk _ (Declarations.expected (resolver r' c) c).lines,
        Artifact.mk _ (Wrapper.expected (resolver r' c) c).lines] = _
      rw [hdeclarations, hwrapper]
      rfl
    · rintro rfl
      have hsame := (halike.forall₂_diagnostics c).imp fun _ _ hd => hd.eq_of_depth_zero
      have hmap := map_eq_of_forall₂ (f := id) (g := id) hsame fun _ _ hd => hd
      simpa using hmap

/-- The sample document and the same document listed backwards give the same artifacts. -/
theorem sample_backwards_same_output :
    Registry.SameDocument 1 Registry.Sample.document (Registry.backwards Registry.Sample.document) ∧
      ∃ r r', Registry.ofDocument Registry.Sample.document = .ok r ∧
        Registry.ofDocument (Registry.backwards Registry.Sample.document) = .ok r' ∧
        ∀ c, ∃ g g' after after',
          (Generation.ofRegistry r c).run.run .none = (.ok g, after) ∧
          (Generation.ofRegistry r' c).run.run .none = (.ok g', after') ∧
          g'.artifacts c = g.artifacts c ∧
          g'.diagnostics.map Diagnostic.place = g.diagnostics.map Diagnostic.place := by
  have hd : Registry.Sample.document.distinctKeys = true := by decide +kernel
  have hd' : (Registry.backwards Registry.Sample.document).distinctKeys = true := by decide +kernel
  have hsame := Registry.sameDocument_backwards hd
  have hread : (Registry.ofDocument Registry.Sample.document).toOption.isSome = true := by rfl
  obtain ⟨r, hr⟩ := exists_ok_of_isSome hread
  obtain ⟨hiff, houtput⟩ := output_independent_of_order hsame hd hd'
  obtain ⟨r', hr'⟩ := hiff.mp ⟨r, hr⟩
  refine ⟨hsame, r, r', hr, hr', fun c => ?_⟩
  obtain ⟨g, g', after, after', hrun, hrun', _, _, hartifacts, hdiagnostics, _⟩ :=
    houtput r r' c hr hr'
  refine ⟨g, g', after, after', hrun, hrun', hartifacts, ?_⟩
  exact map_eq_of_forall₂ hdiagnostics fun _ _ hd => Prod.ext hd.kind hd.field

end NodeSchema
