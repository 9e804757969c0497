import NodeSchema.Proofs.NameOrder
import NodeSchema.Proofs.Occurrences
/-!
# What is printed

The artifacts are put together as data and then written as lines. Here the lines are written out,
as they stand in the classes of the declarations and in the functions of the wrapper module. Class
and builder of a kind have the same to say about a field, which is a sign if the field may be left
out, and its type.

* `TypeResolver.Prints` — the text for every field of a kind, and where it comes from.
* `ClassDeclaration.lines_expected`, `Signature.text_expected` — how it is printed.
* `Wrapper.lines_expected` — the members stand between the braces of the exported object.
-/

namespace NodeSchema

variable (t : TypeResolver) (c : Config) (k : NodeKind)

/-! ## 1. Fields -/

/-- What both artifacts print about a field of a kind. -/
def TypeResolver.fieldText (name : String) : String :=
  (k.fieldNamed name).marker ++ t.typeOf k name

/-- `t.Prints k text` — the text for a field of the kind is a sign if the field may be left out, and
the type that the resolver answers with, whatever has been found before. -/
def TypeResolver.Prints (text : String → String) : Prop :=
  ∀ name field, k.field name = .ok field → ∃ type,
    (∀ before, ((t.resolve k.name name).run.run before).1 = .ok type) ∧
      text name = (if field.isOptional then "?" else "") ++ type

theorem NodeKind.mem_keys_of_field {k : NodeKind} {name : String} {field : Field}
    (h : k.field name = .ok field) : name ∈ k.fields.keys ∧ k.fieldNamed name = field := by
  unfold NodeKind.field at h
  unfold NodeKind.fieldNamed
  split at h
  · next hget =>
    cases h
    exact ⟨(k.fields.isSome_get? name).mp (by rw [hget]; rfl), by rw [hget]; rfl⟩
  · cases h

/-- The text for a field has the type that the resolver answers with. -/
theorem TypeResolver.prints_fieldText {t : TypeResolver} {k : NodeKind}
    (hk : k ∈ t.registry.sorted) : t.Prints k (t.fieldText k) := by
  intro name field hfield
  obtain ⟨hmem, rfl⟩ := NodeKind.mem_keys_of_field hfield
  refine ⟨t.typeOf k name, fun before => ?_, rfl⟩
  rw [TypeResolver.resolve_of_mem hk hmem before]

theorem FieldDeclaration.line_expected (name : String) :
    (expected t k name).line = "  " ++ name ++ ": " ++ t.fieldText k name ++ ";" := by
  simp [line, expected, TypeResolver.fieldText, String.append_assoc]

/-- A parameter has a name of its own, which is not always that of the field. -/
theorem Parameter.text_expected (name : String) :
    (expected t c k name).text = parameterName c name ++ ": " ++ t.fieldText k name := by
  simp [text, expected, TypeResolver.fieldText, String.append_assoc]

/-! ## 2. Classes -/

/-- The block of a kind: a head, its fields in their order without those that are skipped, an empty
line, and its aliases. -/
theorem ClassDeclaration.lines_expected :
    (expected t c k).lines =
      ["declare class " ++ k.name ++ " \x7b", "  type: '" ++ k.name ++ "';",
        "  loc: ?Location;"] ++
      (k.orderedFields.filter (· ∉ c.skippedFields)).map
        (fun name => "  " ++ name ++ ": " ++ t.fieldText k name ++ ";") ++
      [""] ++ (k.aliases ++ [c.universalAlias]).map ("  // alias: " ++ ·) ++ ["\x7d", ""] := by
  have hfields : (expected t c k).fields.map FieldDeclaration.line =
      (k.shownFields c).map fun name => "  " ++ name ++ ": " ++ t.fieldText k name ++ ";" := by
    show ((k.shownFields c).map _).map _ = _
    rw [List.map_map]
    exact List.map_congr_left fun name _ => FieldDeclaration.line_expected t k name
  rw [lines, hfields]
  rfl

/-- The declarations, block by block. -/
theorem Declarations.lines_classes :
    (expected t c).lines =
      ["// " ++ c.disclaimer, "", locationLine, ""] ++
        t.registry.sorted.flatMap (fun k =>
          ["declare class " ++ k.name ++ " \x7b", "  type: '" ++ k.name ++ "';",
            "  loc: ?Location;"] ++
          (k.orderedFields.filter (· ∉ c.skippedFields)).map
            (fun name => "  " ++ name ++ ": " ++ t.fieldText k name ++ ";") ++
          [""] ++ (k.aliases ++ [c.universalAlias]).map ("  // alias: " ++ ·) ++ ["\x7d", ""]) ++
        (expected t c).unions.flatMap (fun u =>
          ["type " ++ u.name ++ " = (| " ++ " | ".intercalate u.members ++ ");", ""]) ++
        [jsxValueLine] := by
  have hclasses : (expected t c).classes.flatMap ClassDeclaration.lines =
      t.registry.sorted.flatMap fun k => (ClassDeclaration.expected t c k).lines :=
    List.flatMap_map _ _ _
  rw [lines, hclasses]
  simp only [ClassDeclaration.lines_expected]
  rfl

/-! ## 3. Functions -/

/-- The signature of a builder: a parameter for every key, in order. -/
theorem Signature.text_expected :
    (expected t c k).text =
      builderName k.name ++ "(" ++
        ", ".intercalate (k.builderKeys.map fun name =>
          (if name ∈ c.reservedWords then "_" ++ name else name) ++ ": " ++ t.fieldText k name) ++
        "): " ++ k.name := by
  have hparameters : (expected t c k).parameters.map Parameter.text =
      k.builderKeys.map fun name => parameterName c name ++ ": " ++ t.fieldText k name := by
    show (k.builderKeys.map _).map _ = _
    rw [List.map_map]
    exact List.map_congr_left fun name _ => Parameter.text_expected t c k name
  rw [text, hparameters]
  rfl

namespace Wrapper

/-- The members of the exported object are printed between its braces. -/
theorem lines_expected :
    ∃ head, (expected t c).lines =
      head ++ ["const " ++ c.aggregateName ++ " = \x7b"] ++
        (expected t c).members.flatMap Member.lines ++
        ["\x7d", "", "export default " ++ c.aggregateName ++ ";", ""] :=
  ⟨(expected t c).lines.take 9, rfl⟩

/-- The builders come first, each with its signature and the lines that it has in common with all
others. -/
theorem lines_builders :
    ∃ (head : List String) (body : String → List String) (rest : List String),
      (expected t c).lines =
        head ++ ["const " ++ c.aggregateName ++ " = \x7b"] ++
          t.registry.sorted.flatMap (fun k =>
            ["  " ++ (Signature.expected t c k).text ++ " \x7b"] ++ body k.name) ++ rest := by
  obtain ⟨head, hlines⟩ := lines_expected t c
  -- What follows the signature of a builder depends on the name of the kind alone.
  let body : String → List String := fun kind => (Member.builder ⟨kind, []⟩).lines.tail
  have hbuilders : ((t.registry.sorted.map (Signature.expected t c)).map Member.builder).flatMap
      Member.lines = t.registry.sorted.flatMap fun k =>
        ["  " ++ (Signature.expected t c k).text ++ " \x7b"] ++ body k.name := by
    rw [List.map_map, List.flatMap_map]
    rfl
  obtain ⟨others, hmembers⟩ :
      (t.registry.sorted.map (Signature.expected t c)).map Member.builder <+:
        (expected t c).members := by
    simp only [expected, ofSignatures, Member.ofSignatures, List.append_assoc]
    exact List.prefix_append _ _
  rw [← hmembers, List.flatMap_append, hbuilders] at hlines
  refine ⟨head, body, others.flatMap Member.lines ++
    ["\x7d", "", "export default " ++ c.aggregateName ++ ";", ""], ?_⟩
  simpa only [List.append_assoc] using hlines

end Wrapper

/-! ## 4. The builder of a kind -/

def Member.signature? : Member → Option Signature
  | .builder s => some s
  | _ => none

def Wrapper.signatures (w : Wrapper) : List Signature := w.members.filterMap Member.signature?

def Wrapper.signaturesOf (w : Wrapper) (kind : String) : List Signature :=
  w.signatures.filter (·.kind = kind)

theorem Member.filterMap_signature?_ofSignatures (signatures : List Signature) :
    (ofSignatures signatures).filterMap signature? = signatures := by
  have hbuilders : (signatures.map Member.builder).filterMap signature? = signatures := by
    rw [List.filterMap_map]
    exact List.filterMap_some
  simp [ofSignatures, hbuilders, List.filterMap_map, Function.comp_def, signature?]

section

variable (t : TypeResolver) (c : Config) {k : NodeKind}

theorem Registry.filter_name_sorted {r : Registry} (hk : k ∈ r.sorted) :
    r.sorted.filter (·.name = k.name) = [k] :=
  filter_tag_eq_singleton NodeKind.name r.nodup_name_sorted hk

theorem Wrapper.signatures_expected :
    (expected t c).signatures = t.registry.sorted.map (Signature.expected t c) :=
  Member.filterMap_signature?_ofSignatures _

/-- Every kind has one builder. -/
theorem Wrapper.signaturesOf_expected (hk : k ∈ t.registry.sorted) :
    (expected t c).signaturesOf k.name = [Signature.expected t c k] := by
  have hsignatures : (expected t c).signaturesOf k.name =
      (t.registry.sorted.filter (·.name = k.name)).map (Signature.expected t c) := by
    rw [signaturesOf, signatures_expected]
    exact List.filter_map
  rw [hsignatures, Registry.filter_name_sorted hk, List.map_singleton]

theorem Signature.map_name_parameters (k : NodeKind) :
    (expected t c k).parameters.map Parameter.name = k.builderKeys.map (parameterName c) := by
  show (k.builderKeys.map _).map _ = _
  rw [List.map_map]
  rfl

/-- The lines of a member stand in the module as they are. -/
theorem Wrapper.infix_lines_of_mem {w : Wrapper} {m : Member} (h : m ∈ w.members) :
    m.lines <:+: w.lines := by
  have hmembers : m.lines <:+: w.members.flatMap Member.lines := by
    obtain ⟨lower, upper, hsplit⟩ := List.append_of_mem h
    exact ⟨lower.flatMap Member.lines, upper.flatMap Member.lines, by simp [hsplit]⟩
  exact hmembers.trans (List.infix_append _ _ _)

/-- The signature of a builder stands in the first line of the builder. -/
theorem Wrapper.mem_lines_of_builder {w : Wrapper} {s : Signature} (h : .builder s ∈ w.members) :
    "  " ++ s.text ++ " \x7b" ∈ w.lines := by
  have hfirst : "  " ++ s.text ++ " \x7b" ∈ (Member.builder s).lines := List.mem_cons_self
  exact (infix_lines_of_mem h).subset hfirst

/-- Every kind has a builder in the module. -/
theorem Wrapper.builder_mem_expected (hk : k ∈ t.registry.sorted) :
    .builder (Signature.expected t c k) ∈ (expected t c).members := by
  simp only [expected, ofSignatures, Member.ofSignatures, List.mem_append]
  exact Or.inl (Or.inl (Or.inl (List.mem_map_of_mem (List.mem_map_of_mem hk))))

end

end NodeSchema
