import NodeSchema.Proofs.Unions
import NodeSchema.Proofs.Validator.TypeGrammar
import NodeSchema.Proofs.Value.OneLine
/-!
# Lines of artifacts

An artifact is a list of lines, and its text is these lines with a line feed between any two. The
lines can be found again in the text if none of them holds a line feed itself. What stands on a line
is written out, or is a name, or is the type of a field; and a type holds names and values. The
names are taken over as they are, so they have to be on one line; the values are free.

* `Validator.names`, `Registry.names`, `Config.KeepsLines` — what is taken over as it is.
* `Validator.oneLine_typeText`, `TypeResolver.oneLine_typeOf` — types.
* `Declarations.oneLine_lines`, `Wrapper.oneLine_lines` — the two artifacts, for any resolver.
* `values_keep_lines_apart` — all of it.
-/

namespace NodeSchema

open Text

/-! ## 1. Names -/

namespace Validator

mutual

def names : Validator → List String
  | .named name => [name]
  | .oneOfTypes types => types
  | .oneOfValues _ => []
  | .each item => names item
  | .chain links => namesOfLinks links
  | .unknown _ => []

def namesOfLinks : List Validator → List String
  | [] => []
  | v :: rest => names v ++ namesOfLinks rest

end

end Validator

/-- The names that a kind brings along: its own, those of its fields and aliases, and those in the
validators of its fields. -/
def NodeKind.names (k : NodeKind) : List String :=
  k.name :: (k.fields.keys ++ k.aliases ++
    k.fields.entries.flatMap fun e => (e.2.validator.map Validator.names).getD [])

def Registry.names (r : Registry) : List String := r.kinds.entries.flatMap fun e => e.2.names

/-- `c.KeepsLines` — all settings that are shown in an artifact are on one line. -/
structure Config.KeepsLines (c : Config) : Prop where
  sourceLabel : OneLine c.sourceLabel
  universalAlias : OneLine c.universalAlias
  unknownType : OneLine c.unknownType
  sequenceType : OneLine c.sequenceType
  aggregateName : OneLine c.aggregateName
  delegateSetter : OneLine c.delegateSetter

/-! ## 2. Types -/

namespace Validator

theorem mem_names_sequencesOf {name : String} {v : Validator} (h : name ∈ v.names) (n : Nat) :
    name ∈ (sequencesOf n v).names := by
  induction n with
  | zero => exact h
  | succ n ih => simp [sequencesOf, sequenceOf, names, namesOfLinks, ih]

/-- The names in the core of a validator are names in the validator. -/
theorem mem_names_of_mem_core {v : Validator} {name : String} (h : name ∈ v.core.names) :
    name ∈ v.names := by
  have hmem := mem_names_sequencesOf h v.depth
  rwa [sequencesOf_depth_core] at hmem

/-- The type of a leaf stays on one line if the names in it do. -/
theorem Leaf.oneLine {v : Validator} {type : String} (h : Leaf v type)
    (hv : ∀ name ∈ v.names, OneLine name) : OneLine type := by
  cases h with
  | named name => exact hv _ (by simp [names])
  | types types => exact oneLine_intercalate (by decide) hv
  | values values =>
    refine oneLine_intercalate (by decide) ?_
    exact List.forall_mem_map.mpr fun v _ => v.oneLine_literal
  | texts values =>
    refine oneLine_intercalate (by decide) ?_
    exact List.forall_mem_map.mpr fun v _ => Json.oneLine_write v

theorem oneLine_bracketed {sequence leaf : String} (hsequence : OneLine sequence)
    (hleaf : OneLine leaf) (n : Nat) : OneLine (bracketed sequence n leaf) := by
  induction n with
  | zero => simpa [bracketed] using hleaf
  | succ n ih =>
    rw [bracketed_succ]
    simp only [oneLine_append, hsequence, ih, true_and, and_true]
    decide

/-- A type is on one line if the names in it are. -/
theorem oneLine_typeText {sequence : String} (hsequence : OneLine sequence) {v : Validator}
    (hv : ∀ name ∈ v.names, OneLine name) {type : String} (h : v.typeText sequence = .ok type) :
    OneLine type := by
  obtain ⟨leaf, hleaf, htype⟩ := typeText_eq_ok_iff.mp h
  rw [← htype]
  exact oneLine_bracketed hsequence
    (hleaf.oneLine fun name hname => hv name (mem_names_of_mem_core hname)) _

end Validator

/-- `t.KeepsLines` — all that the resolver takes over as it is is on one line. -/
structure TypeResolver.KeepsLines (t : TypeResolver) : Prop where
  unknownType : OneLine t.unknownType
  sequenceType : OneLine t.sequenceType
  overrides : ∀ e ∈ t.overrides, ∀ e' ∈ e.2, OneLine e'.2
  names : ∀ name ∈ t.registry.names, OneLine name

namespace TypeResolver.KeepsLines

variable {t : TypeResolver} (ht : t.KeepsLines) {k : NodeKind} (hk : k ∈ t.registry.sorted)

include ht hk

/-- All that a kind of the registry is made of stays on its line. -/
theorem kindNames : ∀ name ∈ k.names, OneLine name := by
  obtain ⟨kind, _, hget⟩ := List.mem_filterMap.mp hk
  exact fun name hname =>
    ht.names name (List.mem_flatMap.mpr ⟨(kind, k), mem_of_lookupEntry hget, hname⟩)

theorem name : OneLine k.name := ht.kindNames hk _ List.mem_cons_self

theorem field {name : String} (h : name ∈ k.fields.keys) : OneLine name :=
  ht.kindNames hk _ (by simp [NodeKind.names, h])

theorem group {name : String} (h : name ∈ k.aliases) : OneLine name :=
  ht.kindNames hk _ (by simp [NodeKind.names, h])

theorem validator {name : String} {f : Field} (h : k.fields.get? name = some f) {v : Validator}
    (hv : f.validator = some v) : ∀ name ∈ v.names, OneLine name := by
  intro name hname
  refine ht.kindNames hk _ (List.mem_cons_of_mem _ (List.mem_append_right _ ?_))
  refine List.mem_flatMap.mpr ⟨_, mem_of_lookupEntry h, ?_⟩
  rw [hv]
  exact hname

end TypeResolver.KeepsLines

/-! ## 3. Pieces of artifacts -/

theorem oneLine_locationLine : OneLine locationLine :=
  oneLine_append.mpr ⟨oneLine_ofList rfl, oneLine_ofList rfl⟩

theorem oneLine_jsxValueLine : OneLine jsxValueLine := oneLine_ofList rfl

theorem Config.KeepsLines.disclaimer {c : Config} (hc : c.KeepsLines) : OneLine c.disclaimer :=
  oneLine_append.mpr ⟨oneLine_ofList rfl, hc.sourceLabel⟩

theorem Field.oneLine_marker (f : Field) : OneLine f.marker := by
  unfold marker
  split <;> decide

section

variable {t : TypeResolver} (ht : t.KeepsLines) {k : NodeKind} (hk : k ∈ t.registry.sorted)

include ht

/-- A type that is given in place of the resolved one stays on its line. -/
theorem TypeResolver.oneLine_override {kind name type : String}
    (h : t.overrideFor? kind name = some type) : OneLine type := by
  obtain ⟨types, htypes, htype⟩ := Option.bind_eq_some_iff.mp h
  exact ht.overrides _ (mem_of_lookupEntry htypes) _ (mem_of_lookupEntry htype)

/-- The type of a field stays on its line, also where it falls back. -/
theorem TypeResolver.oneLine_typeOfField {f : Field}
    (hf : ∀ v, f.validator = some v → ∀ name ∈ v.names, OneLine name) :
    OneLine (t.typeOfField f) := by
  unfold typeOfField
  split
  · exact ht.unknownType
  · next v hv =>
    split
    · next htype => exact Validator.oneLine_typeText ht.sequenceType (hf v hv) htype
    · exact ht.unknownType

include hk

/-- The type of a field is on one line, whatever values its validator lists. -/
theorem TypeResolver.oneLine_typeOf {name : String} (h : name ∈ k.fields.keys) :
    OneLine (t.typeOf k name) := by
  unfold typeOf
  cases hoverride : t.overrideFor? k.name name with
  | some type => exact oneLine_override ht hoverride
  | none =>
    obtain ⟨f, hf⟩ := Option.isSome_iff_exists.mp ((k.fields.isSome_get? name).mpr h)
    refine oneLine_typeOfField ht fun v hv => ?_
    rw [NodeKind.fieldNamed, hf] at hv
    exact ht.validator hk hf hv

theorem FieldDeclaration.oneLine_line {name : String} (h : name ∈ k.fields.keys) :
    OneLine (FieldDeclaration.expected t k name).line := by
  have hname := ht.field hk h
  have hmarker := (k.fieldNamed name).oneLine_marker
  have htype := TypeResolver.oneLine_typeOf ht hk h
  simp only [line, expected, oneLine_append, hname, hmarker, htype, and_true]
  decide

theorem Parameter.oneLine_text (c : Config) {name : String} (h : name ∈ k.fields.keys) :
    OneLine (Parameter.expected t c k name).text := by
  have hname : OneLine (parameterName c name) := by
    unfold parameterName
    split
    · simp only [oneLine_append, ht.field hk h, and_true]
      decide
    · exact ht.field hk h
  have hmarker := (k.fieldNamed name).oneLine_marker
  have htype := TypeResolver.oneLine_typeOf ht hk h
  simp only [text, expected, oneLine_append, hname, hmarker, htype, true_and, and_true]
  decide

theorem Signature.oneLine_text (c : Config) : OneLine (Signature.expected t c k).text := by
  have hname := ht.name hk
  have hbuilder : OneLine (builderName k.name) := oneLine_lowerFirst hname
  have hparameters :
      OneLine (", ".intercalate ((Signature.expected t c k).parameters.map Parameter.text)) := by
    refine oneLine_intercalate (by decide) (List.forall_mem_map.mpr ?_)
    refine List.forall_mem_map.mpr fun name hmem => ?_
    exact Parameter.oneLine_text ht hk c (k.builderKeys_fields name hmem)
  have hkind : (Signature.expected t c k).kind = k.name := rfl
  simp only [text, oneLine_append, hkind, hname, hbuilder, hparameters, true_and, and_true]
  decide

end

/-- The members of the exported object stay on their lines if their names and signatures do. -/
theorem Member.oneLine_lines {signatures : List Signature}
    (h : ∀ s ∈ signatures, OneLine s.kind ∧ OneLine s.text) :
    ∀ m ∈ ofSignatures signatures, ∀ line ∈ m.lines, OneLine line := by
  simp only [ofSignatures, List.forall_mem_append, List.forall_mem_map, lines,
    List.forall_mem_cons, List.not_mem_nil, false_implies, implies_true, oneLine_append, and_true]
  refine ⟨⟨⟨?_, ?_⟩, ?_⟩, ?_⟩
  all_goals
    intro s hs
    obtain ⟨hkind, htext⟩ := h s hs
    simp only [hkind, htext, and_true]
    -- What remains is written out.
    and_intros <;> exact oneLine_ofList rfl

/-! ## 4. Artifacts -/

section

variable {t : TypeResolver} {c : Config} (ht : t.KeepsLines) (hc : c.KeepsLines)

include ht in
theorem Registry.oneLine_declaring {group kind : String}
    (h : kind ∈ t.registry.declaring c group) : OneLine kind := by
  obtain ⟨k, hget, _⟩ := Registry.mem_declaring_iff.mp h
  obtain ⟨hk, rfl⟩ := Registry.mem_sorted_of_get hget
  exact ht.name hk

include ht hc

theorem NodeKind.oneLine_shownAliases {k : NodeKind} (hk : k ∈ t.registry.sorted) {group : String}
    (h : group ∈ k.shownAliases c) : OneLine group := by
  rcases NodeKind.mem_shownAliases.mp h with h | rfl
  · exact ht.group hk h
  · exact hc.universalAlias

theorem ClassDeclaration.oneLine_lines {k : NodeKind} (hk : k ∈ t.registry.sorted) :
    ∀ line ∈ (ClassDeclaration.expected t c k).lines, OneLine line := by
  have hname := ht.name hk
  have hfields : ∀ d ∈ (ClassDeclaration.expected t c k).fields, OneLine d.line := by
    refine List.forall_mem_map.mpr fun name hmem => ?_
    exact FieldDeclaration.oneLine_line ht hk
      (NodeKind.mem_orderedFields.mp (List.mem_filter.mp hmem).1)
  have haliases : ∀ group ∈ (ClassDeclaration.expected t c k).aliases, OneLine (aliasLine group) :=
    fun group hgroup => by
      simp only [aliasLine, oneLine_append, NodeKind.oneLine_shownAliases ht hc hk hgroup, and_true]
      decide
  simp only [lines, List.forall_mem_append, List.forall_mem_cons, List.forall_mem_map]
  refine ⟨⟨⟨⟨?_, hfields⟩, ?_⟩, haliases⟩, ?_⟩
  · simp only [expected, ofFields, oneLine_append, hname, and_true]
    decide
  · decide
  · decide

theorem UnionDeclaration.oneLine_lines {d : UnionDeclaration}
    (h : d ∈ (Declarations.expected t c).unions) : ∀ line ∈ d.lines, OneLine line := by
  rw [Declarations.unions_expected] at h
  obtain ⟨group, hgroup, rfl⟩ := List.mem_map.mp h
  obtain ⟨⟨kind, k, hget, hmem⟩, _⟩ := Registry.mem_unionNames_iff.mp hgroup
  have hgroup : OneLine group := NodeKind.oneLine_shownAliases ht hc
    (Registry.mem_sorted_of_get hget).1 (NodeKind.mem_shownAliases.mpr hmem)
  have hmembers : OneLine (Validator.union (t.registry.declaring c group)) :=
    oneLine_intercalate (by decide) fun kind hkind => Registry.oneLine_declaring ht hkind
  simp only [lines, List.forall_mem_cons, oneLine_append, hgroup, hmembers, and_true]
  decide

/-- **The declarations stay on their lines**, for any resolver. -/
theorem Declarations.oneLine_lines :
    ∀ line ∈ (Declarations.expected t c).lines, OneLine line := by
  have hdisclaimer : OneLine (Declarations.expected t c).disclaimer := hc.disclaimer
  have hclasses : ∀ d ∈ (Declarations.expected t c).classes, ∀ line ∈ d.lines, OneLine line :=
    List.forall_mem_map.mpr fun k hk => ClassDeclaration.oneLine_lines ht hc hk
  have hunions : ∀ d ∈ (Declarations.expected t c).unions, ∀ line ∈ d.lines, OneLine line :=
    fun d hd => UnionDeclaration.oneLine_lines ht hc hd
  simp only [lines, List.forall_mem_append, List.forall_mem_flatMap, List.forall_mem_cons,
    List.not_mem_nil, false_implies, implies_true, oneLine_append, hdisclaimer,
    oneLine_locationLine, oneLine_jsxValueLine, and_true, true_and]
  refine ⟨⟨?_, hclasses⟩, hunions⟩
  decide

/-- **The wrapper module stays on its lines**, for any resolver. -/
theorem Wrapper.oneLine_lines : ∀ line ∈ (Wrapper.expected t c).lines, OneLine line := by
  have hdisclaimer : OneLine (Wrapper.expected t c).disclaimer := hc.disclaimer
  have hsetter : OneLine (Wrapper.expected t c).delegateSetter := hc.delegateSetter
  have haggregate : OneLine (Wrapper.expected t c).aggregateName := hc.aggregateName
  have hmembers : ∀ m ∈ (Wrapper.expected t c).members, ∀ line ∈ m.lines, OneLine line := by
    refine Member.oneLine_lines (List.forall_mem_map.mpr fun k hk => ?_)
    exact ⟨ht.name hk, Signature.oneLine_text ht hk c⟩
  simp only [lines, List.forall_mem_append, List.forall_mem_flatMap, List.forall_mem_cons,
    List.not_mem_nil, false_implies, implies_true, oneLine_append, hdisclaimer, hsetter,
    haggregate, and_true]
  refine ⟨⟨?_, hmembers⟩, ?_⟩
  · and_intros <;> exact oneLine_ofList rfl
  · and_intros <;> exact oneLine_ofList rfl

end

/-- The lines of an artifact can be found again in its text. -/
theorem Artifact.splitOn_text {a : Artifact} (hlines : ∀ line ∈ a.lines, OneLine line)
    (hne : a.lines ≠ []) : (a.text.toList.splitOn '\n').map String.ofList = a.lines := by
  have hpieces : ∀ piece ∈ a.lines.map String.toList, '\n' ∉ piece :=
    List.forall_mem_map.mpr fun line hline => (hlines line hline).noLineFeed
  have hsplit : a.text.toList.splitOn '\n' = a.lines.map String.toList := by
    rw [Artifact.text, String.toList_intercalate]
    exact List.splitOn_intercalate '\n' hpieces (by simpa using hne)
  rw [hsplit, List.map_map]
  simp [Function.comp_def]

/-- No type that is given by default breaks a line. -/
theorem TypeResolver.oneLine_defaultOverrides :
    ∀ e ∈ defaultOverrides, ∀ e' ∈ e.2, OneLine e'.2 := by decide

/-- **Values keep lines apart.** If the names of a registry and the settings that are shown are on
one line each, then so is every line of both artifacts, whatever values the validators list: texts
with line feeds and quotes, numbers, lists and objects of any depth. So splitting the text of an
artifact at its line feeds gives back its lines. -/
theorem values_keep_lines_apart (r : Registry) (c : Config) (hr : ∀ name ∈ r.names, OneLine name)
    (hc : c.KeepsLines) :
    ∃ g after, (Generation.ofRegistry r c).run.run .none = (.ok g, after) ∧
      ∀ a ∈ g.artifacts c,
        (∀ line ∈ a.lines, '\n' ∉ line.toList ∧ '\r' ∉ line.toList) ∧
        (a.text.toList.splitOn '\n').map String.ofList = a.lines := by
  have ht : (Generation.resolver r c).KeepsLines :=
    { unknownType := hc.unknownType
      sequenceType := hc.sequenceType
      overrides := TypeResolver.oneLine_defaultOverrides
      names := hr }
  have hdeclarations := Declarations.oneLine_lines ht hc
  have hwrapper := Wrapper.oneLine_lines ht hc
  have hartifact : ∀ a : Artifact, (∀ line ∈ a.lines, OneLine line) → a.lines ≠ [] →
      (∀ line ∈ a.lines, '\n' ∉ line.toList ∧ '\r' ∉ line.toList) ∧
        (a.text.toList.splitOn '\n').map String.ofList = a.lines := fun a hlines hne =>
    ⟨fun line hline => ⟨(hlines line hline).noLineFeed, (hlines line hline).noReturn⟩,
      Artifact.splitOn_text hlines hne⟩
  refine ⟨_, _, Generation.ofRegistry_run_none r c, ?_⟩
  rw [Generation.artifacts, List.forall_mem_cons, List.forall_mem_singleton]
  refine ⟨hartifact _ hdeclarations ?_, hartifact _ hwrapper ?_⟩
  · simp [Declarations.lines]
  · simp [Wrapper.lines]

/-- A kind with values that hold marks of lines, quotes and backslashes, bare and inside lists and
objects. -/
def NodeKind.marked : NodeKind where
  name := "Marked"
  builderKeys := ["code"]
  fields := .ofList
    [("code", ⟨some (.chain [.named "string", .oneOfValues [.str "\r\n", .str "\"\\\n"]]), false,
        .null⟩),
     ("parts", ⟨some (.chain [.named "array", .each (.oneOfValues
        [.str "'\n' | ", .list [.int 7, .object [("\n", .str "\r'")]]])]), true, .null⟩)]
  aliases := ["Pattern"]
  name_ne := by decide
  builderKeys_fields := by decide

/-- A kind with line breaks in its values. -/
theorem marked_values_keep_lines_apart :
    (∀ name ∈ (Registry.ofKinds [.marked]).names, OneLine name) ∧ ({} : Config).KeepsLines ∧
      ∃ g after, (Generation.ofRegistry (.ofKinds [.marked]) {}).run.run .none = (.ok g, after) ∧
        ∀ a ∈ g.artifacts {},
          (∀ line ∈ a.lines, '\n' ∉ line.toList ∧ '\r' ∉ line.toList) ∧
          (a.text.toList.splitOn '\n').map String.ofList = a.lines := by
  have hnames : ∀ name ∈ (Registry.ofKinds [.marked]).names, OneLine name := by decide
  have hsettings : ({} : Config).KeepsLines :=
    { sourceLabel := by decide
      universalAlias := by decide
      unknownType := by decide
      sequenceType := by decide
      aggregateName := by decide
      delegateSetter := by decide }
  exact ⟨hnames, hsettings, values_keep_lines_apart _ _ hnames hsettings⟩

end NodeSchema
