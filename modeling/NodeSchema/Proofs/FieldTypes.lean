import NodeSchema.Proofs.Printing
import NodeSchema.Proofs.ResolverUses
/-!
# Both artifacts say the same about a field

A field of a kind can stand in the class of the kind and, once or several times, in the parameter
list of its builder. Class and builder go through the fields in different orders, leave out
different ones and are put together at different times. What they print about a field is the same
all the same: the sign in front of the type is that of the field, and the type is what the resolver
answers, which does not depend on what it has been used for before.

* `TypeResolver.outcome_performAll` — an artifact does not depend on what the resolver did before.
* `artifacts_agree_on_fields` — what the two print, line by line.
-/

namespace NodeSchema

/-- **Both artifacts say the same about a field.** There are declarations and a wrapper module that
the resolver gives in every run of uses, whatever comes before. For every kind, in ascending order,
the declarations have one block, with a line for every field that is not skipped, in the order of
the fields and each of them once. The module has one builder for every kind, with a parameter for
every builder key, in order. What is printed about a field is the same in both: the sign in front,
and the type, which is the answer of the resolver at any time. -/
theorem artifacts_agree_on_fields (t : TypeResolver) (c : Config) :
    ∃ (d : Declarations) (w : Wrapper) (text : NodeKind → String → String),
      (∀ (before : Findings) (uses : List TypeResolver.Use) (i : Nat),
        (uses[i]? = some (.declarations c) →
          (t.performAll before uses).1[i]? = some (.ok (.declarations d))) ∧
        (uses[i]? = some (.wrapper c) →
          (t.performAll before uses).1[i]? = some (.ok (.wrapper w)))) ∧
      (t.registry.sorted.map NodeKind.name).Pairwise (· < ·) ∧
      (∀ k, k ∈ t.registry.sorted ↔ t.registry.get k.name = .ok k) ∧
      (∀ k ∈ t.registry.sorted, t.Prints k (text k) ∧
        k.orderedFields.Nodup ∧ (∀ name, name ∈ k.orderedFields ↔ name ∈ k.fields.keys) ∧
        ∀ name ∈ k.builderKeys, name ∈ k.fields.keys) ∧
      d.lines =
        ["// " ++ c.disclaimer, "", locationLine, ""] ++
          t.registry.sorted.flatMap (fun k =>
            ["declare class " ++ k.name ++ " \x7b", "  type: '" ++ k.name ++ "';",
              "  loc: ?Location;"] ++
            (k.orderedFields.filter (· ∉ c.skippedFields)).map
              (fun name => "  " ++ name ++ ": " ++ text k name ++ ";") ++
            [""] ++ (k.aliases ++ [c.universalAlias]).map ("  // alias: " ++ ·) ++ ["\x7d", ""]) ++
          d.unions.flatMap (fun u =>
            ["type " ++ u.name ++ " = (| " ++ " | ".intercalate u.members ++ ");", ""]) ++
          [jsxValueLine] ∧
      ∃ (head : List String) (body : String → List String) (rest : List String),
        w.lines =
          head ++ ["const " ++ c.aggregateName ++ " = \x7b"] ++
            t.registry.sorted.flatMap (fun k =>
              ["  " ++
                (builderName k.name ++ "(" ++
                  ", ".intercalate (k.builderKeys.map fun name =>
                    (if name ∈ c.reservedWords then "_" ++ name else name) ++ ": " ++ text k name) ++
                  "): " ++ k.name) ++ " \x7b"] ++ body k.name) ++ rest := by
  refine ⟨Declarations.expected t c, Wrapper.expected t c, t.fieldText, ?_,
    t.registry.pairwise_lt_name_sorted, fun k => Registry.mem_sorted_iff, ?_,
    Declarations.lines_classes t c, ?_⟩
  · intro before uses i
    exact ⟨t.outcome_performAll before, t.outcome_performAll before⟩
  · intro k hk
    exact ⟨TypeResolver.prints_fieldText hk, k.nodup_orderedFields,
      fun name => NodeKind.mem_orderedFields, k.builderKeys_fields⟩
  · obtain ⟨head, body, rest, hlines⟩ := Wrapper.lines_builders t c
    refine ⟨head, body, rest, ?_⟩
    simpa only [Signature.text_expected] using hlines

end NodeSchema
