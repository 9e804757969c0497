import NodeSchema.Proofs.NameOrder
import NodeSchema.Proofs.Occurrences
/-!
# Which fields a run reports

A run visits the fields that the classes show, and after them the keys of all builders, so that a
field may be visited more than once. A visit adds at most one diagnostic, the same one every time,
and of the diagnostics on one field the first is kept. So the report is read off the first visits:
the shown fields in their order, then the builder keys that no class shows.

* `TypeResolver.Degrades` — a diagnostic that the resolver makes on a field.
* `Generation.diagnostics_found` — the visits of a run with what is found there.
* `Diagnostic.firsts_filterMap`, `Registry.eraseDups_visits` — first diagnostics and first visits.
* `Generation.reports_degraded_fields` — the report.
-/

namespace NodeSchema

def Diagnostic.place (d : Diagnostic) : String × String := (d.kind, d.field)

/-! ## 1. One visit -/

namespace TypeResolver

/-- `t.Degrades d` — the field has no override, and a validator without a type; the diagnostic has
the validator that stands in the way. -/
def Degrades (t : TypeResolver) (d : Diagnostic) : Prop :=
  t.overrideFor? d.kind d.field = none ∧
    ∃ field validator e, t.registry.field d.kind d.field = .ok field ∧
      field.validator = some validator ∧ validator.typeText t.sequenceType = .error e ∧
      d.blamed = e.blamed

def diagnosticAt (t : TypeResolver) (place : String × String) : Option Diagnostic :=
  (t.foundAt place.1 place.2).diagnostics.head?

variable {t : TypeResolver}

/-- A visit adds no more than one diagnostic. -/
theorem diagnostics_foundAt (kind name : String) :
    (t.foundAt kind name).diagnostics = (t.diagnosticAt (kind, name)).toList := by
  unfold diagnosticAt foundAt
  cases t.overrideFor? kind name with
  | some type => rfl
  | none =>
    cases t.registry.field kind name with
    | error e => rfl
    | ok field =>
      dsimp only
      unfold foundAtField
      cases field.validator with
      | none => rfl
      | some validator =>
        dsimp only
        cases validator.typeText t.sequenceType <;> rfl

/-- There is a diagnostic at a place exactly if its field degrades, and it is the one for this
field. -/
theorem diagnosticAt_eq_some_iff {place : String × String} {d : Diagnostic} :
    t.diagnosticAt place = some d ↔ d.place = place ∧ t.Degrades d := by
  obtain ⟨kind, name⟩ := place
  obtain ⟨kind', name', blamed⟩ := d
  simp only [Diagnostic.place, Degrades, diagnosticAt, Prod.mk.injEq]
  constructor
  · intro h
    unfold foundAt at h
    cases hover : t.overrideFor? kind name with
    | some type => rw [hover] at h; cases h
    | none =>
      rw [hover] at h
      cases hfield : t.registry.field kind name with
      | error e => rw [hfield] at h; cases h
      | ok field =>
        rw [hfield] at h
        dsimp only at h
        unfold foundAtField at h
        cases hvalidator : field.validator with
        | none => rw [hvalidator] at h; cases h
        | some validator =>
          rw [hvalidator] at h
          dsimp only at h
          cases htype : validator.typeText t.sequenceType with
          | ok type => rw [htype] at h; cases h
          | error e =>
            rw [htype] at h
            cases h
            exact ⟨⟨rfl, rfl⟩, hover, field, validator, e, hfield, hvalidator, htype, rfl⟩
  · rintro ⟨⟨rfl, rfl⟩, hover, field, validator, e, hfield, hvalidator, htype, rfl⟩
    simp only [foundAt, foundAtField, hover, hfield, hvalidator, htype]
    rfl

end TypeResolver

/-! ## 2. All visits -/

namespace Findings

theorem diagnostics_concat (l : List Findings) :
    (concat l).diagnostics = l.flatMap (·.diagnostics) := by
  induction l with
  | nil => rfl
  | cons f rest ih => rw [concat_cons, List.flatMap_cons, ← ih]; rfl

/-- Findings at places, one after the other. -/
theorem diagnostics_concat_places (t : TypeResolver) (places : List (String × String)) :
    (concat (places.map fun place => t.foundAt place.1 place.2)).diagnostics =
      places.filterMap t.diagnosticAt := by
  induction places with
  | nil => rfl
  | cons place rest ih =>
    obtain ⟨kind, name⟩ := place
    have hsplit : (concat (((kind, name) :: rest).map fun place =>
          t.foundAt place.1 place.2)).diagnostics =
        (t.foundAt kind name).diagnostics ++
          (concat (rest.map fun place => t.foundAt place.1 place.2)).diagnostics := rfl
    rw [hsplit, ih, TypeResolver.diagnostics_foundAt, List.filterMap_cons]
    cases t.diagnosticAt (kind, name) <;> rfl

/-- Findings at fields of one kind. -/
theorem diagnostics_concat_foundAt (t : TypeResolver) (kind : String) (names : List String) :
    (concat (names.map (t.foundAt kind))).diagnostics =
      (names.map (kind, ·)).filterMap t.diagnosticAt := by
  rw [← diagnostics_concat_places, List.map_map]
  rfl

end Findings

namespace Registry

variable (r : Registry) (c : Config)

/-- The fields that the classes show, in the order of the classes. -/
def shownPlaces : List (String × String) :=
  r.sorted.flatMap fun k => (k.shownFields c).map (k.name, ·)

/-- The keys of all builders, in the order of the builders. -/
def keyPlaces : List (String × String) :=
  r.sorted.flatMap fun k => k.builderKeys.map (k.name, ·)

/-- The keys of all builders that no class shows, without repetitions. -/
def skippedKeyPlaces : List (String × String) :=
  r.sorted.flatMap fun k => (k.builderKeys.eraseDups.filter (· ∈ c.skippedFields)).map (k.name, ·)

variable {r c} {kind name : String}

/-- The places of the first pass are all fields but those that are skipped. -/
theorem mem_shownPlaces_iff :
    (kind, name) ∈ r.shownPlaces c ↔
      ∃ k, r.get kind = .ok k ∧ name ∈ k.fields.keys ∧ name ∉ c.skippedFields := by
  simp only [shownPlaces, List.mem_flatMap, List.mem_map, NodeKind.shownFields, List.mem_filter,
    NodeKind.mem_orderedFields, decide_eq_true_eq]
  constructor
  · rintro ⟨k, hk, _, hname, hplace⟩
    cases hplace
    exact ⟨k, get_of_mem_sorted hk, hname⟩
  · rintro ⟨k, hget, hname⟩
    obtain ⟨hk, rfl⟩ := mem_sorted_of_get hget
    exact ⟨k, hk, name, hname, rfl⟩

variable (r c)

/-- The first pass comes to no place twice. -/
theorem nodup_shownPlaces : (r.shownPlaces c).Nodup := by
  have hfields : ∀ k : NodeKind, (k.shownFields c).eraseDups = k.shownFields c := fun k =>
    eraseDups_of_nodup (k.nodup_orderedFields.filter _)
  have htagged := eraseDups_flatMap_tagged NodeKind.name (fun k => k.shownFields c)
    r.nodup_name_sorted
  simp only [hfields] at htagged
  unfold shownPlaces
  rw [← htagged]
  exact nodup_eraseDups _

/-- A builder key that is not skipped is a field that its class shows. -/
theorem removeAll_shownPlaces :
    r.keyPlaces.removeAll (r.shownPlaces c) =
      r.sorted.flatMap fun k => (k.builderKeys.filter (· ∈ c.skippedFields)).map (k.name, ·) := by
  unfold List.removeAll keyPlaces
  rw [List.filter_flatMap]
  refine List.flatMap_congr fun k hk => ?_
  rw [List.filter_map]
  refine congrArg _ (List.filter_congr fun name hname => ?_)
  have hget := get_of_mem_sorted hk
  have hfield := k.builderKeys_fields name hname
  have hmem : (k.name, name) ∈ r.shownPlaces c ↔ name ∉ c.skippedFields := by
    rw [mem_shownPlaces_iff]
    constructor
    · rintro ⟨_, _, _, hskip⟩; exact hskip
    · intro hskip; exact ⟨k, hget, hfield, hskip⟩
  by_cases hskip : name ∈ c.skippedFields <;> simp [hmem, hskip]

/-- The first visits of a run: everything that is shown, and then the builder keys that are not. -/
theorem eraseDups_visits :
    (r.shownPlaces c ++ r.keyPlaces).eraseDups = r.shownPlaces c ++ r.skippedKeyPlaces c := by
  rw [List.eraseDups_append, eraseDups_of_nodup (r.nodup_shownPlaces c), removeAll_shownPlaces,
    eraseDups_flatMap_tagged NodeKind.name _ r.nodup_name_sorted]
  simp only [eraseDups_filter]
  rfl

end Registry

/-! ## 3. The first diagnostics -/

namespace Diagnostic

/-- A later diagnostic counts if there is none yet for its field. -/
theorem firsts_concat (l : List Diagnostic) (d : Diagnostic) :
    firsts (l ++ [d]) =
      if (firsts l).any (fun e => e.kind = d.kind ∧ e.field = d.field) then firsts l
      else firsts l ++ [d] := by
  unfold firsts
  rw [List.foldl_append]
  rfl

/-- Where every place has one diagnostic, the first diagnostics are those at the first places. -/
theorem firsts_filterMap {at? : String × String → Option Diagnostic}
    (hplace : ∀ p d, at? p = some d → d.place = p) (l : List (String × String)) :
    firsts (l.filterMap at?) = l.eraseDups.filterMap at? := by
  induction l using List.reverseRecOn with
  | nil => rfl
  | append_singleton rest p ih =>
    rw [List.filterMap_append, eraseDups_concat]
    cases hp : at? p with
    | none =>
      rw [List.filterMap_cons_none hp, List.filterMap_nil, List.append_nil, ih]
      split
      · rfl
      · rw [List.filterMap_append, List.filterMap_cons_none hp, List.filterMap_nil,
          List.append_nil]
    | some d =>
      rw [List.filterMap_cons_some hp, List.filterMap_nil, firsts_concat, ih]
      -- The diagnostic has been met exactly when its place has been visited.
      have hmet : (rest.eraseDups.filterMap at?).any
          (fun e => e.kind = d.kind ∧ e.field = d.field) = true ↔ p ∈ rest := by
        rw [List.any_eq_true]
        constructor
        · rintro ⟨e, he, hsame⟩
          obtain ⟨p', hp', he⟩ := List.mem_filterMap.mp he
          have hsame : e.place = d.place := by simpa [place] using hsame
          rw [← hplace p d hp, ← hsame, hplace p' e he]
          exact List.mem_eraseDups.mp hp'
        · intro hmem
          exact ⟨d, List.mem_filterMap.mpr ⟨p, List.mem_eraseDups.mpr hmem, hp⟩, by simp⟩
      by_cases hmem : p ∈ rest
      · rw [if_pos (hmet.mpr hmem), if_pos hmem]
      · rw [if_neg (fun h => hmem (hmet.mp h)), if_neg hmem, List.filterMap_append,
          List.filterMap_cons_some hp, List.filterMap_nil]

end Diagnostic

/-! ## 4. The report -/

namespace Generation

variable (r : Registry) (c : Config)

/-- What a run finds, visit by visit. -/
theorem diagnostics_found :
    (found r c).diagnostics =
      (r.shownPlaces c ++ r.keyPlaces).filterMap (resolver r c).diagnosticAt := by
  have hdeclarations : (Declarations.found (resolver r c) c).diagnostics =
      (r.shownPlaces c).filterMap (resolver r c).diagnosticAt := by
    rw [Declarations.found, Findings.diagnostics_concat, List.flatMap_map, Registry.shownPlaces,
      List.filterMap_flatMap]
    exact List.flatMap_congr fun k _ => Findings.diagnostics_concat_foundAt _ _ _
  have hwrapper : (Wrapper.found (resolver r c)).diagnostics =
      r.keyPlaces.filterMap (resolver r c).diagnosticAt := by
    rw [Wrapper.found, Findings.diagnostics_concat, List.flatMap_map, Registry.keyPlaces,
      List.filterMap_flatMap]
    exact List.flatMap_congr fun k _ => Findings.diagnostics_concat_foundAt _ _ _
  rw [found, Findings.diagnostics_concat, List.filterMap_append, ← hdeclarations, ← hwrapper]
  simp

/-- The diagnostics of a run are those at the first visits. -/
theorem diagnostics_expected :
    (expected r c (found r c)).diagnostics =
      (r.shownPlaces c ++ r.skippedKeyPlaces c).filterMap (resolver r c).diagnosticAt := by
  have hplace : ∀ p d, (resolver r c).diagnosticAt p = some d → d.place = p := fun p d h =>
    (TypeResolver.diagnosticAt_eq_some_iff.mp h).1
  rw [← r.eraseDups_visits c, ← Diagnostic.firsts_filterMap hplace, ← diagnostics_found]
  rfl

end Generation

end NodeSchema
