import NodeSchema.Proofs.Diagnostics
import NodeSchema.Proofs.Printing
import NodeSchema.Proofs.Unions
/-!
# One kind more

A registry with one kind more gives artifacts that differ in nothing but what concerns this kind.
Everything that is listed kind by kind goes by the names of the kinds, so the new kind is inserted
at its place in every list, and nothing that is printed about another kind depends on it.

* `Inserted` — a list with one item more, at its place in the order.
* `Registry.Adds.inserted_sorted` — the kinds of the two registries.
* `Generation.Grows` — what the two results have to do with each other, part by part.
* `added_kind_inserted_everywhere` — the results of the two runs.
-/

namespace NodeSchema

open Generation (resolver)

/-! ## 1. Insertion at a place in the order -/

section

variable {α β : Type} {key : α → String} {a : α} {l l' : List α}

/-- `Inserted key a l l'` — the second list is the first one with `a` behind the items with smaller
keys and before those with greater ones. -/
def Inserted (key : α → String) (a : α) (l l' : List α) : Prop :=
  ∃ lower upper, l = lower ++ upper ∧ l' = lower ++ a :: upper ∧
    (∀ b ∈ lower, key b < key a) ∧ ∀ b ∈ upper, key a < key b

/-- What is made of the items one by one, with the keys that they have, is inserted alike. -/
theorem Inserted.map (h : Inserted key a l l') {key' : β → String} (f : α → β)
    (hkey : ∀ b, key' (f b) = key b) : Inserted key' (f a) (l.map f) (l'.map f) := by
  obtain ⟨lower, upper, hl, hl', hlower, hupper⟩ := h
  refine ⟨lower.map f, upper.map f, by simp [hl], by simp [hl'], ?_, ?_⟩
  · intro b hb
    obtain ⟨b', hb', rfl⟩ := List.mem_map.mp hb
    simpa [hkey] using hlower b' hb'
  · intro b hb
    obtain ⟨b', hb', rfl⟩ := List.mem_map.mp hb
    simpa [hkey] using hupper b' hb'

/-- Where items are chosen, the new one is inserted among the chosen ones if it is chosen itself. -/
theorem Inserted.filter (h : Inserted key a l l') {p : α → Bool} (ha : p a = true) :
    Inserted key a (l.filter p) (l'.filter p) := by
  obtain ⟨lower, upper, hl, hl', hlower, hupper⟩ := h
  refine ⟨lower.filter p, upper.filter p, by simp [hl], by simp [hl', ha], ?_, ?_⟩
  · intro b hb
    exact hlower b (List.mem_filter.mp hb).1
  · intro b hb
    exact hupper b (List.mem_filter.mp hb).1

/-- A selection that leaves out the new item does not change. -/
theorem Inserted.filter_eq (h : Inserted key a l l') {p : α → Bool} (ha : p a = false) :
    l'.filter p = l.filter p := by
  obtain ⟨lower, upper, hl, hl', _, _⟩ := h
  simp [hl, hl', ha]

/-- A new name is sorted in between the smaller and the greater ones. -/
theorem inserted_insertName {a : String} {l : List String} (hl : l.Pairwise (· < ·))
    (ha : a ∉ l) : Inserted id a l (insertName a l) := by
  induction l with
  | nil => exact ⟨[], [], rfl, rfl, by simp, by simp⟩
  | cons b rest ih =>
    have hne : a ≠ b := fun h => ha (h ▸ List.mem_cons_self)
    have hrest := List.pairwise_cons.mp hl
    unfold insertName
    split
    · next hab =>
      have hlt : a < b := Std.lt_of_le_of_ne hab hne
      refine ⟨[], b :: rest, rfl, rfl, by simp, ?_⟩
      intro b' hb'
      rcases List.mem_cons.mp hb' with rfl | hb'
      · exact hlt
      · exact String.lt_trans hlt (hrest.1 b' hb')
    · next hab =>
      have hlt : b < a := String.not_le.mp hab
      have hfresh : a ∉ rest := fun h => ha (List.mem_cons_of_mem b h)
      obtain ⟨lower, upper, hl, hl', hlower, hupper⟩ := ih hrest.2 hfresh
      refine ⟨b :: lower, upper, by rw [hl, List.cons_append], by rw [hl', List.cons_append], ?_,
        hupper⟩
      intro b' hb'
      rcases List.mem_cons.mp hb' with rfl | hb'
      · exact hlt
      · exact hlower b' hb'

end

/-! ## 2. Registries -/

/-- `r.Adds k r'` — the second registry is the first one with the kind `k`, which is new. -/
structure Registry.Adds (r : Registry) (k : NodeKind) (r' : Registry) : Prop where
  fresh : k.name ∉ r.kinds.keys
  get? : ∀ kind, r'.kinds.get? kind = if kind = k.name then some k else r.kinds.get? kind

namespace Registry

variable {r r' : Registry} {k : NodeKind}

theorem adds_insert (h : k.name ∉ r.kinds.keys) : r.Adds k (r.insert k) where
  fresh := h
  get? := by
    intro kind
    have hget : (r.insert k).kinds.get? kind =
        if k.name = kind then some k else r.kinds.get? kind := Table.get?_insert _ _ _ _
    simp only [hget, eq_comm]

namespace Adds

variable (h : r.Adds k r')

include h

theorem get?_of_ne {kind : String} (hkind : kind ≠ k.name) :
    r'.kinds.get? kind = r.kinds.get? kind := by
  rw [h.get?, if_neg hkind]

theorem field_of_ne {kind : String} (hkind : kind ≠ k.name) (name : String) :
    r'.field kind name = r.field kind name := by
  unfold Registry.field Registry.get
  rw [h.get?_of_ne hkind]

theorem keys_perm : r'.kinds.keys.Perm (k.name :: r.kinds.keys) := by
  have hnodup : (k.name :: r.kinds.keys).Nodup := List.nodup_cons.mpr ⟨h.fresh, r.kinds.nodup_keys⟩
  refine (List.perm_ext_iff_of_nodup r'.kinds.nodup_keys hnodup).mpr fun kind => ?_
  rw [← Table.isSome_get?, h.get?, List.mem_cons, ← Table.isSome_get?]
  by_cases hkind : kind = k.name <;> simp [hkind]

theorem inserted_kindNames : Inserted id k.name r.kindNames r'.kindNames := by
  have hnames : r'.kindNames = insertName k.name r.kindNames := sortNames_eq_of_perm h.keys_perm
  rw [hnames]
  exact inserted_insertName r.pairwise_lt_kindNames fun hk => h.fresh (mem_kindNames.mp hk)

/-- The new kind stands at its place among the kinds. -/
theorem inserted_sorted : Inserted NodeKind.name k r.sorted r'.sorted := by
  obtain ⟨lower, upper, hl, hl', hlower, hupper⟩ := h.inserted_kindNames
  -- Apart from the new kind, both registries have the same kinds under the same names.
  have hsame : ∀ names : List String, (∀ kind ∈ names, kind ≠ k.name) →
      names.filterMap r'.kinds.get? = names.filterMap r.kinds.get? := fun names hnames =>
    List.filterMap_congr fun kind hkind => h.get?_of_ne (hnames kind hkind)
  have hlower' := hsame lower fun kind hkind heq => String.lt_irrefl _ (heq ▸ hlower kind hkind)
  have hupper' := hsame upper fun kind hkind heq => String.lt_irrefl _ (heq ▸ hupper kind hkind)
  have hk : r'.kinds.get? k.name = some k := by rw [h.get?, if_pos rfl]
  have hname : ∀ names : List String, ∀ j ∈ names.filterMap r.kinds.get?, j.name ∈ names := by
    intro names j hj
    obtain ⟨kind, hkind, hget⟩ := List.mem_filterMap.mp hj
    rwa [name_of_get? hget]
  refine ⟨lower.filterMap r.kinds.get?, upper.filterMap r.kinds.get?, ?_, ?_, ?_, ?_⟩
  · rw [sorted, hl, List.filterMap_append]
  · rw [sorted, hl', List.filterMap_append, List.filterMap_cons_some hk, hlower', hupper']
  · intro j hj
    exact hlower j.name (hname lower j hj)
  · intro j hj
    exact hupper j.name (hname upper j hj)

end Adds

end Registry

/-! ## 3. Members -/

/-- The member of a family for a kind whose builder has this signature. -/
def Member.ofSignature : Family → Signature → Member
  | .build, s => .builder s
  | .test, s => .test s.kind
  | .require, s => .require s.kind
  | .cast, s => .cast s.kind

theorem Member.kind_ofSignature (f : Family) (s : Signature) : (ofSignature f s).kind = s.kind := by
  cases f <;> rfl

theorem Member.family_ofSignature (f : Family) (s : Signature) : (ofSignature f s).family = f := by
  cases f <;> rfl

/-- The members of a module are made family by family from the same signatures. -/
theorem Member.ofSignatures_eq (signatures : List Signature) :
    ofSignatures signatures = Family.all.flatMap fun f => signatures.map (ofSignature f) := by
  simp only [ofSignatures, Family.all, List.map_map, List.flatMap_cons, List.flatMap_nil,
    List.append_nil, List.append_assoc]
  rfl

namespace Wrapper

def part (w : Wrapper) (f : Family) : List Member := w.members.filter (·.family = f)

variable (t : TypeResolver) (c : Config)

theorem part_expected (f : Family) :
    (expected t c).part f =
      t.registry.sorted.map fun k => Member.ofSignature f (Signature.expected t c k) := by
  have hfamily : ∀ f' : Family, ∀ signatures : List Signature,
      (signatures.map (Member.ofSignature f')).filter (·.family = f) =
        if f' = f then signatures.map (Member.ofSignature f') else [] := by
    intro f' signatures
    by_cases hf : f' = f <;>
      simp [List.filter_map, Function.comp_def, Member.family_ofSignature, hf]
  rw [part, expected, ofSignatures, Member.ofSignatures_eq, List.filter_flatMap]
  simp only [hfamily]
  cases f <;> simp [Family.all, Function.comp_def]

/-- The members stand family by family. -/
theorem members_expected :
    (expected t c).members = Family.all.flatMap (expected t c).part := by
  rw [expected, ofSignatures, Member.ofSignatures_eq]
  refine List.flatMap_congr fun f _ => ?_
  have hpart := part_expected t c f
  rw [expected, ofSignatures, Member.ofSignatures_eq] at hpart
  rw [hpart, List.map_map]
  rfl

/-- The lines of all members, family by family. -/
theorem flatMap_lines_members :
    (expected t c).members.flatMap Member.lines =
      Family.all.flatMap fun f => ((expected t c).part f).flatMap Member.lines := by
  have hlines := congrArg (List.flatMap Member.lines) (members_expected t c)
  rwa [List.flatMap_assoc] at hlines

/-- Modules that differ in their members alone have the same lines before and after them. -/
theorem lines_frame {w w' : Wrapper} (h : w' = { w with members := w'.members }) :
    ∃ head tail, w.lines = head ++ w.members.flatMap Member.lines ++ tail ∧
      w'.lines = head ++ w'.members.flatMap Member.lines ++ tail := by
  refine ⟨_, _, rfl, ?_⟩
  rw [h]
  rfl

end Wrapper

/-! ## 4. Unions -/

/-- The members that the union of an alias lists; none if there is no such union. -/
def Declarations.membersOf (d : Declarations) (group : String) : List String :=
  (d.unions.filter (·.name = group)).flatMap (·.members)

theorem Declarations.map_name_unions (t : TypeResolver) (c : Config) :
    (expected t c).unions.map UnionDeclaration.name = t.registry.unionNames c := by
  rw [unions_expected, List.map_map]
  exact List.map_id _

theorem Declarations.nodup_unions (t : TypeResolver) (c : Config) :
    ((expected t c).unions.map UnionDeclaration.name).Nodup := by
  rw [map_name_unions]
  exact t.registry.nodup_unionNames c

/-- The union of an alias that is not excluded lists the kinds of the alias. If there is no union
there are no such kinds. -/
theorem Declarations.membersOf_expected (t : TypeResolver) {c : Config} {group : String}
    (hgroup : group ∉ c.excludedAliases) :
    (expected t c).membersOf group = t.registry.declaring c group := by
  have hunions := unions_expected t c
  by_cases hname : group ∈ t.registry.unionNames c
  · have hmem : ⟨group, t.registry.declaring c group⟩ ∈ (expected t c).unions := by
      rw [hunions]
      exact List.mem_map_of_mem hname
    rw [membersOf, filter_tag_eq_singleton UnionDeclaration.name (nodup_unions t c) hmem]
    simp
  · have hnone : (expected t c).unions.filter (·.name = group) = [] := by
      refine List.filter_eq_nil_iff.mpr fun u hu heq => hname ?_
      have heq : u.name = group := of_decide_eq_true heq
      rw [← map_name_unions, ← heq]
      exact List.mem_map_of_mem hu
    rw [membersOf, hnone, List.flatMap_nil]
    refine (List.eq_nil_iff_forall_not_mem.mpr fun kind hkind => hname ?_).symm
    exact Registry.mem_unionNames_iff.mpr ⟨⟨kind, Registry.mem_declaring_iff.mp hkind⟩, hgroup⟩

namespace Registry.Adds

variable {r r' : Registry} {k : NodeKind} (h : r.Adds k r') (c : Config)

include h

/-- A group of the new kind has it as a member, at its place in the order. -/
theorem inserted_declaring {group : String} (hgroup : group ∈ k.shownAliases c) :
    Inserted id k.name (r.declaring c group) (r'.declaring c group) :=
  (h.inserted_sorted.filter (decide_eq_true hgroup)).map NodeKind.name fun _ => rfl

/-- Any other group has the members that it had. -/
theorem declaring_eq {group : String} (hgroup : group ∉ k.shownAliases c) :
    r'.declaring c group = r.declaring c group := by
  unfold declaring
  rw [h.inserted_sorted.filter_eq (decide_eq_false hgroup)]

/-- The unions are those that there were and those of the groups of the new kind. -/
theorem mem_unionNames_iff {group : String} :
    group ∈ r'.unionNames c ↔
      group ∈ r.unionNames c ∨ group ∈ k.shownAliases c ∧ group ∉ c.excludedAliases := by
  obtain ⟨lower, upper, hl, hl', _, _⟩ := h.inserted_sorted
  simp only [unionNames, hl, hl', List.mem_filter, List.mem_eraseDups, List.flatMap_append,
    List.flatMap_cons, List.mem_append, decide_eq_true_eq]
  by_cases hlower : group ∈ lower.flatMap (·.shownAliases c) <;>
    by_cases hk : group ∈ k.shownAliases c <;> simp [hlower, hk]

/-! ## 5. Diagnostics -/

/-- Apart from the new kind, the same places are visited in the same order. -/
theorem filter_places (names : NodeKind → List String) :
    (r'.sorted.flatMap fun j => (names j).map (j.name, ·)).filter (r.contains ·.1) =
      r.sorted.flatMap fun j => (names j).map (j.name, ·) := by
  obtain ⟨lower, upper, hl, hl', _, _⟩ := h.inserted_sorted
  have hkept : ∀ j ∈ r.sorted, ((names j).map (j.name, ·)).filter (r.contains ·.1) =
      (names j).map (j.name, ·) := by
    intro j hj
    have hj : r.contains j.name = true := by
      rw [contains_iff, ← mem_kindNames, ← map_name_sorted]
      exact List.mem_map_of_mem hj
    simp [List.filter_map, Function.comp_def, hj]
  have hdropped : ((names k).map (k.name, ·)).filter (r.contains ·.1) = [] := by
    have hk : r.contains k.name = false :=
      Bool.eq_false_iff.mpr fun hk => h.fresh (contains_iff.mp hk)
    simp [List.filter_map, Function.comp_def, hk]
  rw [hl] at hkept
  have hlower := List.flatMap_congr fun j hj => hkept j (List.mem_append_left upper hj)
  have hupper := List.flatMap_congr fun j hj => hkept j (List.mem_append_right lower hj)
  rw [hl', hl, List.filter_flatMap, List.flatMap_append, List.flatMap_cons, hdropped, hlower,
    hupper, List.flatMap_append, List.nil_append]

/-- What is found at a place of another kind does not change. -/
theorem diagnosticAt_eq {place : String × String} (hplace : r.contains place.1 = true) :
    (resolver r' c).diagnosticAt place = (resolver r c).diagnosticAt place := by
  have hne : place.1 ≠ k.name := fun heq => h.fresh (heq ▸ contains_iff.mp hplace)
  have hfield : (resolver r' c).registry.field place.1 place.2 =
      (resolver r c).registry.field place.1 place.2 := h.field_of_ne hne place.2
  unfold TypeResolver.diagnosticAt TypeResolver.foundAt
  rw [hfield]
  rfl

/-- A diagnostic is on an old kind when the place of the visit is. -/
theorem filter_diagnosticAt (place : String × String) :
    ((resolver r' c).diagnosticAt place).filter (r.contains ·.kind) =
      if r.contains place.1 then (resolver r c).diagnosticAt place else none := by
  have hkind : ∀ d, (resolver r' c).diagnosticAt place = some d → d.kind = place.1 := fun d hd =>
    congrArg Prod.fst (TypeResolver.diagnosticAt_eq_some_iff.mp hd).1
  have hfilter : ((resolver r' c).diagnosticAt place).filter (r.contains ·.kind) =
      if r.contains place.1 then (resolver r' c).diagnosticAt place else none := by
    cases hd : (resolver r' c).diagnosticAt place with
    | none => simp
    | some d => simp [Option.filter_some, hkind d hd]
  rw [hfilter]
  split
  · next hplace => exact h.diagnosticAt_eq c hplace
  · rfl

/-- The diagnostics on the old kinds stay, in their order. -/
theorem filter_diagnostics :
    (Generation.expected r' c (Generation.found r' c)).diagnostics.filter (r.contains ·.kind) =
      (Generation.expected r c (Generation.found r c)).diagnostics := by
  have hplaces : (r'.shownPlaces c ++ r'.skippedKeyPlaces c).filter (r.contains ·.1) =
      r.shownPlaces c ++ r.skippedKeyPlaces c := by
    rw [List.filter_append]
    exact congrArg₂ _ (h.filter_places _) (h.filter_places _)
  rw [Generation.diagnostics_expected, Generation.diagnostics_expected, List.filter_filterMap,
    ← hplaces, List.filterMap_filter]
  exact List.filterMap_congr fun place _ => h.filter_diagnosticAt c place

end Registry.Adds

/-! ## 6. The main statement -/

/-- `Generation.Grows r k c text g g'` — the second result is the first one with what concerns the
kind `k`, which is not one of the registry, and with nothing else. About the fields of the kind
`text` is printed. -/
structure Generation.Grows (r : Registry) (k : NodeKind) (c : Config) (text : String → String)
    (g g' : Generation) : Prop where
  /-- The block of the new kind is inserted at its place; all other blocks stay as they are. -/
  classes : ∃ block : ClassDeclaration, block.kind = k.name ∧
    block.lines =
      ["declare class " ++ k.name ++ " \x7b", "  type: '" ++ k.name ++ "';",
        "  loc: ?Location;"] ++
      (k.orderedFields.filter (· ∉ c.skippedFields)).map
        (fun name => "  " ++ name ++ ": " ++ text name ++ ";") ++
      [""] ++ (k.aliases ++ [c.universalAlias]).map ("  // alias: " ++ ·) ++ ["\x7d", ""] ∧
    Inserted ClassDeclaration.kind block g.declarations.classes g'.declarations.classes
  /-- The blocks of the classes are followed by the unions; in front of them and behind them nothing
  changes. -/
  declarationLines : ∀ d ∈ [g.declarations, g'.declarations],
    d.lines = ["// " ++ c.disclaimer, "", locationLine, ""] ++
      d.classes.flatMap ClassDeclaration.lines ++
      d.unions.flatMap (fun u =>
        ["type " ++ u.name ++ " = (| " ++ " | ".intercalate u.members ++ ");", ""]) ++
      [jsxValueLine]
  /-- An alias has one union or none. -/
  nodup : ∀ d ∈ [g.declarations, g'.declarations], (d.unions.map UnionDeclaration.name).Nodup
  /-- No union goes, and those that come are of aliases of the new kind. -/
  unions : ∀ group, group ∈ g'.declarations.unions.map UnionDeclaration.name ↔
    group ∈ g.declarations.unions.map UnionDeclaration.name ∨
      (group ∈ k.aliases ∨ group = c.universalAlias) ∧ group ∉ c.excludedAliases
  /-- The new kind is inserted at its place in the unions of its aliases. -/
  members : ∀ group ∉ c.excludedAliases, group ∈ k.aliases ∨ group = c.universalAlias →
    Inserted id k.name (g.declarations.membersOf group) (g'.declarations.membersOf group)
  /-- All other unions keep their members. -/
  otherMembers : ∀ group ∉ c.excludedAliases, ¬ (group ∈ k.aliases ∨ group = c.universalAlias) →
    g'.declarations.membersOf group = g.declarations.membersOf group
  /-- In every family the member for the new kind is inserted at its place. -/
  builder : ∃ m : Member, m.kind = k.name ∧
    m.lines =
      ["  " ++
        (builderName k.name ++ "(" ++
          ", ".intercalate (k.builderKeys.map fun name =>
            (if name ∈ c.reservedWords then "_" ++ name else name) ++ ": " ++ text name) ++
          "): " ++ k.name) ++ " \x7b",
       "    const args = ([].slice: any).call(arguments);",
       "    let loc = args[args.length - 1];",
       "    const hasLoc = (loc && typeof loc === 'object' " ++
         "&& typeof loc.start === 'object' && typeof loc.end === 'object');",
       "    if (hasLoc) \x7b",
       "      args.pop();",
       "    \x7d",
       "    return \x7b...t." ++ k.name ++ ".apply(t, args), " ++
         "loc: hasLoc ? (loc: any) : getCurrentLocation()\x7d;",
       "  \x7d,"] ∧
    Inserted Member.kind m (g.wrapper.part .build) (g'.wrapper.part .build)
  test : ∃ m : Member, m.kind = k.name ∧
    m.lines =
      ["  is" ++ k.name ++ "(value: any, opts?: Object): boolean \x7b",
       "    return t.is" ++ k.name ++ ".apply(t, arguments);",
       "  \x7d,"] ∧
    Inserted Member.kind m (g.wrapper.part .test) (g'.wrapper.part .test)
  require : ∃ m : Member, m.kind = k.name ∧
    m.lines =
      ["  assert" ++ k.name ++ "(value: " ++ k.name ++ ", opts?: Object): mixed \x7b",
       "    return t.assert" ++ k.name ++ ".apply(t, arguments);",
       "  \x7d,"] ∧
    Inserted Member.kind m (g.wrapper.part .require) (g'.wrapper.part .require)
  cast : ∃ m : Member, m.kind = k.name ∧
    m.lines =
      ["  as" ++ k.name ++ "(value: any, opts?: Object): " ++ k.name ++ " | void \x7b",
       "    return t.is" ++ k.name ++ ".apply(t, arguments) ? (value: any) : undefined;",
       "  \x7d,"] ∧
    Inserted Member.kind m (g.wrapper.part .cast) (g'.wrapper.part .cast)
  /-- The lines of the module, family by family; before and after them nothing changes. -/
  wrapperLines : ∃ head tail, ∀ w ∈ [g.wrapper, g'.wrapper],
    w.lines = head ++ Family.all.flatMap (fun f => (w.part f).flatMap Member.lines) ++ tail
  /-- The diagnostics on the old kinds stay, in their order. -/
  diagnostics : g'.diagnostics.filter (r.contains ·.kind) = g.diagnostics

/-- **A kind that is added is inserted everywhere and changes nothing else.** Whatever the settings
are, a registry and the same registry with a new kind both give a result. The new kind has its class
among the classes, its member in each of the four families, and its name in the unions of its
aliases, always at its place in the order. All other classes and members keep their lines, all other
unions their members, and the diagnostics on the old kinds stay as they are. -/
theorem added_kind_inserted_everywhere {r r' : Registry} {k : NodeKind} (h : r.Adds k r')
    (c : Config) :
    ∃ g g' after after' text,
      (Generation.ofRegistry r c).run.run .none = (.ok g, after) ∧
      (Generation.ofRegistry r' c).run.run .none = (.ok g', after') ∧
      (resolver r' c).Prints k text ∧ Generation.Grows r k c text g g' := by
  have hk : k ∈ r'.sorted := by
    obtain ⟨lower, upper, _, hl', _, _⟩ := h.inserted_sorted
    simp [hl']
  refine ⟨_, _, _, _, (resolver r' c).fieldText k, Generation.ofRegistry_run_none r c,
    Generation.ofRegistry_run_none r' c, TypeResolver.prints_fieldText hk, ?_⟩
  have hclasses : Inserted ClassDeclaration.kind (ClassDeclaration.expected (resolver r' c) c k)
      (Declarations.expected (resolver r c) c).classes
      (Declarations.expected (resolver r' c) c).classes :=
    h.inserted_sorted.map _ fun _ => rfl
  have hpart : ∀ f, Inserted Member.kind
      (Member.ofSignature f (Signature.expected (resolver r' c) c k))
      ((Wrapper.expected (resolver r c) c).part f)
      ((Wrapper.expected (resolver r' c) c).part f) := by
    intro f
    rw [Wrapper.part_expected, Wrapper.part_expected]
    exact h.inserted_sorted.map _ fun _ => Member.kind_ofSignature _ _
  have hmembers : ∀ group ∉ c.excludedAliases, ∀ r : Registry,
      (Declarations.expected (resolver r c) c).membersOf group = r.declaring c group :=
    fun group hgroup r => Declarations.membersOf_expected (resolver r c) hgroup
  refine
    { classes := ⟨_, rfl, ClassDeclaration.lines_expected (resolver r' c) c k, hclasses⟩
      declarationLines := List.forall_mem_cons.mpr ⟨rfl, List.forall_mem_singleton.mpr rfl⟩
      nodup := ?_, unions := ?_, members := ?_, otherMembers := ?_
      builder := ⟨_, rfl, ?_, hpart .build⟩
      test := ⟨_, rfl, rfl, hpart .test⟩
      require := ⟨_, rfl, rfl, hpart .require⟩
      cast := ⟨_, rfl, rfl, hpart .cast⟩
      wrapperLines := ?_
      diagnostics := h.filter_diagnostics c }
  · exact List.forall_mem_cons.mpr ⟨Declarations.nodup_unions _ c,
      List.forall_mem_singleton.mpr (Declarations.nodup_unions _ c)⟩
  · intro group
    simp only [Generation.expected, Declarations.map_name_unions, ← NodeKind.mem_shownAliases]
    exact h.mem_unionNames_iff c
  · intro group hgroup hk
    simp only [Generation.expected, hmembers group hgroup]
    exact h.inserted_declaring c (NodeKind.mem_shownAliases.mpr hk)
  · intro group hgroup hk
    simp only [Generation.expected, hmembers group hgroup]
    exact h.declaring_eq c fun hmem => hk (NodeKind.mem_shownAliases.mp hmem)
  · rw [← Signature.text_expected]
    rfl
  · have hframe : Wrapper.expected (resolver r' c) c =
        { Wrapper.expected (resolver r c) c with
          members := (Wrapper.expected (resolver r' c) c).members } := rfl
    obtain ⟨head, tail, hlines, hlines'⟩ := Wrapper.lines_frame hframe
    rw [Wrapper.flatMap_lines_members] at hlines hlines'
    exact ⟨head, tail, List.forall_mem_cons.mpr ⟨hlines, List.forall_mem_singleton.mpr hlines'⟩⟩

/-- A kind with one field, which has no type, and with these aliases. -/
def NodeKind.untyped (name : String) (aliases : List String) (h : name ≠ "") : NodeKind where
  name := name
  builderKeys := ["value"]
  fields := .ofList [("value", ⟨some (.unknown .null), false, .null⟩)]
  aliases := aliases
  name_ne := h
  builderKeys_fields := by decide

def Registry.twoKinds : Registry :=
  .ofKinds [.untyped "R" ["Function", "Pattern"] (by decide), .untyped "P" ["Pattern"] (by decide)]

/-- Between `P` and `R` the kind `Q` is inserted everywhere. -/
theorem kind_added_between :
    let q := NodeKind.untyped "Q" ["Pattern", "Function", "Literal"] (by decide)
    Registry.twoKinds.Adds q (Registry.twoKinds.insert q) ∧
      ∃ g g' after after' text,
        (Generation.ofRegistry .twoKinds {}).run.run .none = (.ok g, after) ∧
        (Generation.ofRegistry (Registry.twoKinds.insert q) {}).run.run .none = (.ok g', after') ∧
        (resolver (Registry.twoKinds.insert q) {}).Prints q text ∧
        Generation.Grows .twoKinds q {} text g g' := by
  have hadds := Registry.adds_insert (r := .twoKinds)
    (k := .untyped "Q" ["Pattern", "Function", "Literal"] (by decide)) (by decide)
  exact ⟨hadds, added_kind_inserted_everywhere hadds {}⟩

end NodeSchema
