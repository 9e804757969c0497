import NodeSchema.Proofs.AliasMap
import NodeSchema.Proofs.NameOrder
/-!
# Alias lines and unions

The class of a kind names the aliases of the kind, and the unions after the classes list the kinds
of an alias. Both come from one list of aliases per kind: the class shows it as it is, and the alias
map takes it up as one call. So a union has exactly the kinds whose classes name its alias.

* `NodeKind.shownAliases`, `Registry.declaring` — the aliases of a kind, and the kinds of an alias.
* `Declarations.lines_expected` — the declarations, class by class and union by union.
* `alias_lines_match_unions` — what the two have to do with each other.
-/

namespace NodeSchema

/-! ## 1. Aliases of kinds and kinds of aliases -/

/-- The aliases that the class of a kind names: its own ones, and the universal one last. -/
def NodeKind.shownAliases (k : NodeKind) (c : Config) : List String :=
  k.aliases ++ [c.universalAlias]

/-- A kind is shown with its aliases and with the universal one. -/
theorem NodeKind.mem_shownAliases {k : NodeKind} {c : Config} {group : String} :
    group ∈ k.shownAliases c ↔ group ∈ k.aliases ∨ group = c.universalAlias := by
  rw [shownAliases, List.mem_append, List.mem_singleton]

namespace Registry

variable (r : Registry) (c : Config)

def declaring (group : String) : List String :=
  (r.sorted.filter fun k => group ∈ k.shownAliases c).map NodeKind.name

/-- The aliases that get a union, in the order in which the classes first name them. -/
def unionNames : List String :=
  (r.sorted.flatMap (·.shownAliases c)).eraseDups.filter (· ∉ c.excludedAliases)

variable {r c} {group kind : String}

/-- A group has the kinds that declare it; the universal group has all. -/
theorem mem_declaring_iff :
    kind ∈ r.declaring c group ↔
      ∃ k, r.get kind = .ok k ∧ (group ∈ k.aliases ∨ group = c.universalAlias) := by
  simp only [declaring, List.mem_map, List.mem_filter, decide_eq_true_eq,
    NodeKind.mem_shownAliases]
  constructor
  · rintro ⟨k, ⟨hk, hgroup⟩, rfl⟩
    exact ⟨k, get_of_mem_sorted hk, hgroup⟩
  · rintro ⟨k, hget, hgroup⟩
    obtain ⟨hk, hname⟩ := mem_sorted_of_get hget
    exact ⟨k, ⟨hk, hgroup⟩, hname⟩

/-- There is a union for every group that some kind is shown with, unless it is excluded. -/
theorem mem_unionNames_iff :
    group ∈ r.unionNames c ↔
      (∃ kind k, r.get kind = .ok k ∧ (group ∈ k.aliases ∨ group = c.universalAlias)) ∧
        group ∉ c.excludedAliases := by
  simp only [unionNames, List.mem_filter, List.mem_eraseDups, List.mem_flatMap,
    decide_eq_true_eq, NodeKind.mem_shownAliases]
  refine and_congr_left fun _ => ⟨?_, ?_⟩
  · rintro ⟨k, hk, hgroup⟩
    exact ⟨k.name, k, get_of_mem_sorted hk, hgroup⟩
  · rintro ⟨kind, k, hget, hgroup⟩
    exact ⟨k, (mem_sorted_of_get hget).1, hgroup⟩

variable (r c)

theorem nodup_unionNames : (r.unionNames c).Nodup := (nodup_eraseDups _).filter _

/-- The kinds of an alias stand in strictly ascending order. -/
theorem pairwise_lt_declaring (group : String) : (r.declaring c group).Pairwise (· < ·) := by
  have hsub : (r.declaring c group).Sublist r.kindNames := by
    rw [← r.map_name_sorted]
    exact List.filter_sublist.map _
  exact r.pairwise_lt_kindNames.sublist hsub

end Registry

/-! ## 2. The alias map of the classes -/

namespace AliasMap

variable (t : TypeResolver) (c : Config)

/-- The calls that fill the alias map, one for each class. -/
theorem ofClasses_expected (kinds : List NodeKind) :
    ofClasses (kinds.map (ClassDeclaration.expected t c)) =
      ofCalls (kinds.map fun k => (k.name, k.shownAliases c)) := by
  rw [ofClasses, ofCalls, List.foldl_map, List.foldl_map]
  rfl

/-- The groups stand in the order in which they are mentioned first. -/
theorem keys_ofClasses_expected (kinds : List NodeKind) :
    (ofClasses (kinds.map (ClassDeclaration.expected t c))).keys =
      (kinds.flatMap (·.shownAliases c)).eraseDups := by
  rw [ofClasses_expected, keys_ofCalls, List.flatMap_map]

/-- A kind is a member once, even if it repeats an alias. -/
theorem members_ofClasses_expected (group : String) :
    (ofClasses (t.registry.sorted.map (ClassDeclaration.expected t c))).members group =
      t.registry.declaring c group := by
  have hcalls : ((t.registry.sorted.map fun k => (k.name, k.shownAliases c)).filter
      fun call => group ∈ call.2).map Prod.fst = t.registry.declaring c group := by
    rw [List.filter_map, List.map_map]
    rfl
  have hnodup : (t.registry.declaring c group).Nodup :=
    t.registry.nodup_name_sorted.sublist (List.filter_sublist.map _)
  rw [ofClasses_expected, members_ofCalls, hcalls, eraseDups_of_nodup hnodup]

end AliasMap

namespace Declarations

variable (t : TypeResolver) (c : Config)

/-- Every union has the kinds that declare its group. -/
theorem unions_expected :
    (expected t c).unions =
      (t.registry.unionNames c).map fun group => ⟨group, t.registry.declaring c group⟩ := by
  show UnionDeclaration.ofAliases c (AliasMap.ofClasses (t.registry.sorted.map _)) = _
  rw [UnionDeclaration.ofAliases, AliasMap.keys_ofClasses_expected]
  exact List.map_congr_left fun group _ => by rw [AliasMap.members_ofClasses_expected]

/-! ## 3. Lines -/

def fieldLines (k : NodeKind) : List String :=
  (ClassDeclaration.expected t c k).fields.map FieldDeclaration.line

theorem line_ne_empty (d : FieldDeclaration) : d.line ≠ "" := by
  intro h
  have hlength := congrArg String.length h
  simp [FieldDeclaration.line] at hlength

/-- No field is printed as an empty line, so the empty line in a class is behind its fields. -/
theorem empty_not_mem_fieldLines (k : NodeKind) : "" ∉ fieldLines t c k := by
  intro h
  obtain ⟨d, _, hd⟩ := List.mem_map.mp h
  exact line_ne_empty d hd

/-- The block of a kind up to the empty line that separates its fields from its aliases. -/
def headLines (k : NodeKind) : List String :=
  ["declare class " ++ k.name ++ " \x7b", "  type: '" ++ k.name ++ "';", "  loc: ?Location;"] ++
    fieldLines t c k

/-- The declarations, with every class parted at its empty line. -/
theorem lines_expected :
    (expected t c).lines =
      ["// " ++ c.disclaimer, "", locationLine, ""] ++
        t.registry.sorted.flatMap (fun k =>
          headLines t c k ++ [""] ++ (k.shownAliases c).map aliasLine ++ ["\x7d", ""]) ++
        (t.registry.unionNames c).flatMap (fun group =>
          UnionDeclaration.lines ⟨group, t.registry.declaring c group⟩) ++
        [jsxValueLine] := by
  rw [lines, unions_expected, List.flatMap_map]
  show _ ++ (t.registry.sorted.map _).flatMap _ ++ _ ++ _ = _
  rw [List.flatMap_map]
  rfl

theorem head?_headLines (k : NodeKind) :
    (headLines t c k).head? = some ("declare class " ++ k.name ++ " \x7b") := rfl

theorem empty_not_mem_headLines (k : NodeKind) : "" ∉ headLines t c k := by
  have hname : "declare class " ++ k.name ++ " \x7b" ≠ "" := by
    intro h
    have hlength := congrArg String.length h
    simp at hlength
  have htype : "  type: '" ++ k.name ++ "';" ≠ "" := by
    intro h
    have hlength := congrArg String.length h
    simp at hlength
  intro h
  rcases List.mem_append.mp h with h | h
  · simp [hname.symm, htype.symm] at h
  · exact empty_not_mem_fieldLines t c k h

end Declarations

/-! ## 4. The main statement -/

/-- **Alias lines and unions tell the same story.** The class of every kind names the aliases of the
kind as they are listed and then the universal one, between the empty line after its fields and the
closing brace. After all classes there is one union for every alias that some class names and that
is not excluded, in the order in which the classes first name them, and no other. Its members are
the kinds whose classes name the alias, in strictly ascending order. -/
theorem alias_lines_match_unions (r : Registry) (c : Config) :
    ∃ g after, (Generation.ofRegistry r c).run.run .none = (.ok g, after) ∧
      (∃ head : NodeKind → List String,
        (∀ k, (head k).head? = some ("declare class " ++ k.name ++ " \x7b") ∧ "" ∉ head k) ∧
        g.declarations.lines =
          ["// " ++ c.disclaimer, "", locationLine, ""] ++
            r.sorted.flatMap (fun k =>
              head k ++ [""] ++ (k.aliases ++ [c.universalAlias]).map ("  // alias: " ++ ·) ++
                ["\x7d", ""]) ++
            (r.unionNames c).flatMap (fun group =>
              ["type " ++ group ++ " = (| " ++ " | ".intercalate (r.declaring c group) ++ ");", ""]) ++
            [jsxValueLine]) ∧
      (r.sorted.map NodeKind.name).Pairwise (· < ·) ∧
      (∀ k, k ∈ r.sorted ↔ r.get k.name = .ok k) ∧
      (r.unionNames c).Nodup ∧
      (∀ group, group ∈ r.unionNames c ↔
        (∃ kind k, r.get kind = .ok k ∧ (group ∈ k.aliases ∨ group = c.universalAlias)) ∧
          group ∉ c.excludedAliases) ∧
      ∀ group, (r.declaring c group).Pairwise (· < ·) ∧
        ∀ kind, kind ∈ r.declaring c group ↔
          ∃ k, r.get kind = .ok k ∧ (group ∈ k.aliases ∨ group = c.universalAlias) := by
  let t := Generation.resolver r c
  refine ⟨_, _, Generation.ofRegistry_run_none r c,
    ⟨Declarations.headLines t c, ?_, Declarations.lines_expected t c⟩, ?_⟩
  · intro k
    exact ⟨Declarations.head?_headLines t c k, Declarations.empty_not_mem_headLines t c k⟩
  refine ⟨r.pairwise_lt_name_sorted, fun k => Registry.mem_sorted_iff, r.nodup_unionNames c,
    fun group => Registry.mem_unionNames_iff, fun group => ?_⟩
  exact ⟨r.pairwise_lt_declaring c group, fun kind => Registry.mem_declaring_iff⟩

end NodeSchema
