import NodeSchema.Builders.Basic
import NodeSchema.Proofs.Printing
/-!
# The names of the generated functions

The wrapper module and the builders have the same functions, but list them in different orders: the
module family by family, the builders kind by kind. Both let the last function with a name count.
Here the names are compared, and so are the functions that the two keep under one name.

* `Wrapper.places_members`, `Builders.pairwise_dispatch` — the two lists and their orders.
* `Builders.lookup_eq_bound_iff`, `Builders.lookup_of_no_function` — what is found under a name.
* `Builders.lookup_agrees_with_wrapper` — where the two agree.
* `Builders.underscored_and_shared_names_differ` — where they do not.
-/

namespace NodeSchema

/-! ## 1. The two lists of functions -/

def Family.rank : Family → Nat
  | .build => 0
  | .test => 1
  | .require => 2
  | .cast => 3

theorem Family.mem_all (f : Family) : f ∈ Family.all := by cases f <;> decide

theorem Family.pairwise_all : Family.all.Pairwise (fun f g => f.rank < g.rank) := by decide

abbrev FunctionPlace := Family × String

namespace FunctionPlace

/-- The order of the module: by family, and in a family by kind. -/
def BeforeInModule (p q : FunctionPlace) : Prop :=
  p.1.rank < q.1.rank ∨ p.1 = q.1 ∧ p.2 < q.2

/-- The order of the builders: by kind, and for a kind by family. -/
def BeforeInBuilders (p q : FunctionPlace) : Prop :=
  p.2 < q.2 ∨ p.2 = q.2 ∧ p.1.rank < q.1.rank

end FunctionPlace

def Member.place (m : Member) : FunctionPlace := (m.family, m.kind)

/-- The members stand family by family, and in each in the order of the signatures. -/
theorem Member.places_ofSignatures (signatures : List Signature) :
    (ofSignatures signatures).map place =
      Family.all.flatMap fun f => (signatures.map Signature.kind).map (f, ·) := by
  simp only [ofSignatures, List.map_append, List.map_map, Family.all, List.flatMap_cons,
    List.flatMap_nil, List.append_nil, List.append_assoc]
  rfl

namespace Wrapper

/-- The member that the exported object keeps under a name: of several the last one. -/
def kept? (w : Wrapper) (name : String) : Option Member :=
  (w.members.filter (·.name = name)).getLast?

variable (t : TypeResolver) (c : Config)

/-- The functions of the module, family by family. -/
theorem places_members :
    (expected t c).members.map Member.place =
      Family.all.flatMap fun f => t.registry.kindNames.map (f, ·) := by
  have hkinds : (t.registry.sorted.map (Signature.expected t c)).map Signature.kind =
      t.registry.kindNames := by
    rw [List.map_map, ← t.registry.map_name_sorted]
    rfl
  rw [← hkinds]
  exact Member.places_ofSignatures _

/-- There is a member of each family for every kind, and for nothing else. -/
theorem mem_members_place_iff {p : FunctionPlace} :
    (∃ m ∈ (expected t c).members, m.place = p) ↔ p.2 ∈ t.registry.kindNames := by
  rw [← List.mem_map, places_members]
  obtain ⟨f, kind⟩ := p
  simp [Family.mem_all]

theorem pairwise_members :
    (expected t c).members.Pairwise fun m m' => m.place.BeforeInModule m'.place := by
  rw [← List.pairwise_map (f := Member.place), places_members, List.pairwise_flatMap]
  refine ⟨fun f _ => ?_, ?_⟩
  · rw [List.pairwise_map]
    exact t.registry.pairwise_lt_kindNames.imp fun h => Or.inr ⟨rfl, h⟩
  · refine Family.pairwise_all.imp fun hfg p hp q hq => ?_
    obtain ⟨_, _, rfl⟩ := List.mem_map.mp hp
    obtain ⟨_, _, rfl⟩ := List.mem_map.mp hq
    exact Or.inl hfg

end Wrapper

namespace Builders

variable (r : Registry)

/-- The entries of the table are the functions of the kinds under their names. -/
theorem mem_dispatch_iff {name : String} {p : FunctionPlace} :
    (name, p) ∈ r.kindNames.flatMap functionsOf ↔
      p.2 ∈ r.kindNames ∧ p.1.functionName p.2 = name := by
  obtain ⟨f, kind⟩ := p
  simp only [functionsOf, List.mem_flatMap, List.mem_map, Prod.mk.injEq]
  constructor
  · rintro ⟨_, hkind, _, _, hname, rfl, rfl⟩
    exact ⟨hkind, hname⟩
  · rintro ⟨hkind, hname⟩
    exact ⟨kind, hkind, f, f.mem_all, hname, rfl, rfl⟩

/-- The table is filled in the order of the builders. -/
theorem pairwise_dispatch :
    (r.kindNames.flatMap functionsOf).Pairwise fun e e' =>
      FunctionPlace.BeforeInBuilders e.2 e'.2 := by
  rw [List.pairwise_flatMap]
  refine ⟨fun kind _ => ?_, ?_⟩
  · rw [functionsOf, List.pairwise_map]
    exact Family.pairwise_all.imp fun h => Or.inr ⟨rfl, h⟩
  · refine r.pairwise_lt_kindNames.imp fun hlt e he e' he' => ?_
    obtain ⟨_, _, rfl⟩ := List.mem_map.mp he
    obtain ⟨_, _, rfl⟩ := List.mem_map.mp he'
    exact Or.inl hlt

/-! ## 2. Looking up a name -/

variable {r} {name : String} {p : FunctionPlace}

/-- The function that the builders have under a name. -/
theorem get?_dispatch :
    (dispatch r).get? name =
      (((r.kindNames.flatMap functionsOf).filter (·.1 = name)).getLast?).map Prod.snd :=
  Table.get?_ofList _ _

theorem mem_of_get?_dispatch (h : (dispatch r).get? name = some p) :
    p.2 ∈ r.kindNames ∧ p.1.functionName p.2 = name := by
  rw [get?_dispatch] at h
  obtain ⟨e, he, rfl⟩ := Option.map_eq_some_iff.mp h
  obtain ⟨hmem, hname⟩ := List.mem_filter.mp (List.mem_of_getLast? he)
  have hname : e.1 = name := of_decide_eq_true hname
  rw [← hname]
  exact mem_dispatch_iff r |>.mp hmem

theorem exists_get?_dispatch_iff :
    (∃ p, (dispatch r).get? name = some p) ↔
      ∃ p : FunctionPlace, p.2 ∈ r.kindNames ∧ p.1.functionName p.2 = name := by
  constructor
  · rintro ⟨p, h⟩
    exact ⟨p, mem_of_get?_dispatch h⟩
  · rintro ⟨p, h⟩
    have hentry := (mem_dispatch_iff r).mpr h
    have hkey : name ∈ (dispatch r).keys :=
      Table.mem_keys_ofList.mpr (List.mem_map.mpr ⟨_, hentry, rfl⟩)
    exact Option.isSome_iff_exists.mp ((Table.isSome_get? _ _).mpr hkey)

/-- A function that comes after all others with its name is the one that the builders have. -/
theorem get?_dispatch_of_last (hkind : p.2 ∈ r.kindNames) (hname : p.1.functionName p.2 = name)
    (hlast : ∀ q : FunctionPlace, q.2 ∈ r.kindNames → q.1.functionName q.2 = name →
      ¬ p.BeforeInBuilders q) : (dispatch r).get? name = some p := by
  have hmem : (name, p) ∈ (r.kindNames.flatMap functionsOf).filter (·.1 = name) :=
    List.mem_filter.mpr ⟨(mem_dispatch_iff r).mpr ⟨hkind, hname⟩, by simp⟩
  have hend := getLast?_of_pairwise ((pairwise_dispatch r).filter _) hmem fun e he => by
    obtain ⟨hentry, he⟩ := List.mem_filter.mp he
    obtain ⟨hkind', hname'⟩ := (mem_dispatch_iff r).mp hentry
    have he : e.1 = name := of_decide_eq_true he
    exact hlast e.2 hkind' (hname'.trans he)
  rw [get?_dispatch, hend]
  rfl

/-- All other functions with a name come before the one that the builders have. -/
theorem before_get?_dispatch (h : (dispatch r).get? name = some p) {q : FunctionPlace}
    (hkind : q.2 ∈ r.kindNames) (hname : q.1.functionName q.2 = name) :
    q = p ∨ q.BeforeInBuilders p := by
  rw [get?_dispatch] at h
  obtain ⟨e, he, rfl⟩ := Option.map_eq_some_iff.mp h
  have hmem : (name, q) ∈ (r.kindNames.flatMap functionsOf).filter (·.1 = name) :=
    List.mem_filter.mpr ⟨(mem_dispatch_iff r).mpr ⟨hkind, hname⟩, by simp⟩
  rcases rel_getLast? ((pairwise_dispatch r).filter _) he hmem with rfl | hbefore
  · exact Or.inl rfl
  · exact Or.inr hbefore

/-- What is found under a name is for the greatest kind that has a function with it. -/
theorem kind_le_of_get?_dispatch (h : (dispatch r).get? name = some p) {q : FunctionPlace}
    (hkind : q.2 ∈ r.kindNames) (hname : q.1.functionName q.2 = name) : q.2 ≤ p.2 := by
  rcases before_get?_dispatch h hkind hname with rfl | hlt | ⟨heq, _⟩
  · exact String.le_refl _
  · exact Std.le_of_lt hlt
  · simp only [heq, String.le_refl]

/-- None of the attributes that do not depend on the registry is a function for a kind. -/
theorem ownAttribute_ne_bound {family : Family} {kind : String} :
    ownAttribute name ≠ .ok (.bound family kind) := by
  intro h
  unfold ownAttribute at h
  split at h
  · next a ha =>
    cases h
    have hmem := mem_of_lookupEntry ha
    simp [ownAttributes, methods, dataAttributes, Family.all] at hmem
  · cases h

variable {b : Builders}

/-- What is found under the name of a function is the operation of its family with its kind. -/
theorem lookup_of_get?_dispatch (hname : isPrivate name = false)
    (h : (dispatch b.registry).get? name = some p) : b.lookup name = .ok (.bound p.1 p.2) := by
  unfold lookup
  simp only [hname, h, method_operationName]
  rfl

/-- A name that is not that of a function is looked up among the own attributes. -/
theorem lookup_of_get?_dispatch_eq_none (h : (dispatch b.registry).get? name = none) :
    b.lookup name = ownAttribute name := by
  simp [lookup, h]

/-- A function for a kind is found under a name exactly if the table has it there and the name has
no underscore in front. -/
theorem lookup_eq_bound_iff {family : Family} {kind : String} :
    b.lookup name = .ok (.bound family kind) ↔
      isPrivate name = false ∧ (dispatch b.registry).get? name = some (family, kind) := by
  cases hname : isPrivate name with
  | true => simp [lookup_of_isPrivate hname, ownAttribute_ne_bound]
  | false =>
    cases hget : (dispatch b.registry).get? name with
    | some p => simp [lookup_of_get?_dispatch hname hget, Prod.ext_iff]
    | none => simp [lookup_of_get?_dispatch_eq_none hget, ownAttribute_ne_bound]

/-- A name that no function has is looked up among the own attributes. -/
theorem lookup_of_no_function
    (h : ∀ kind ∈ b.registry.kindNames, ∀ f : Family, f.functionName kind ≠ name) :
    b.lookup name = ownAttribute name := by
  have hnone : (dispatch b.registry).get? name = none := by
    by_contra hsome
    obtain ⟨p, hp⟩ := Option.ne_none_iff_exists'.mp hsome
    obtain ⟨hkind, hname⟩ := mem_of_get?_dispatch hp
    exact h p.2 hkind p.1 hname
  exact lookup_of_get?_dispatch_eq_none hnone

end Builders

/-! ## 3. The main statement -/

/-- The member that the module keeps is the function that the builders have, if no later kind has a
function with the name. -/
theorem Builders.get?_dispatch_of_kept {t : TypeResolver} {c : Config} {name : String} {m : Member}
    (hkept : (Wrapper.expected t c).kept? name = some m)
    (hlatest : ∀ m' ∈ (Wrapper.expected t c).members, m'.name = name → m'.kind ≤ m.kind) :
    (dispatch t.registry).get? name = some m.place := by
  obtain ⟨hmem, hname⟩ := List.mem_filter.mp (List.mem_of_getLast? hkept)
  have hname : m.name = name := of_decide_eq_true hname
  refine get?_dispatch_of_last
    ((Wrapper.mem_members_place_iff t c).mp ⟨m, hmem, rfl⟩) hname fun q hkind hq hafter => ?_
  obtain ⟨m', hmem', rfl⟩ := (Wrapper.mem_members_place_iff t c).mpr hkind
  rcases hafter with hlater | ⟨hsame, hrank⟩
  · exact String.not_le.mpr hlater (hlatest m' hmem' hq)
  · -- A later family for the same kind would stand after the kept member in the module too.
    have hq : m'.name = name := hq
    have hfiltered : m' ∈ (Wrapper.expected t c).members.filter (·.name = name) :=
      List.mem_filter.mpr ⟨hmem', by simpa using hq⟩
    rcases rel_getLast? ((Wrapper.pairwise_members t c).filter _) hkept hfiltered with rfl | h
    · exact Nat.lt_irrefl _ hrank
    · rcases h with hrank' | ⟨hfamily, _⟩
      · exact Nat.lt_asymm hrank hrank'
      · rw [hfamily] at hrank
        exact Nat.lt_irrefl _ hrank

/-- **The module and the builders agree on names.** The members of the exported object are printed
one after the other between its braces. A name is that of a function of the builders exactly when
it is that of a member and has no underscore in front. The function is that of a member with the
name, for the greatest kind that has one. So it is that of the member that the exported object
keeps, which is the last one with the name, exactly when no member with the name is for a later
kind. -/
theorem Builders.lookup_agrees_with_wrapper (t : TypeResolver) (c : Config) (before : Findings)
    (delegate : Option Delegate) (location : Value) :
    ∃ w after, (Wrapper.ofRegistry t c).run.run before = (.ok w, after) ∧
      (∃ head, w.lines =
        head ++ ["const " ++ c.aggregateName ++ " = \x7b"] ++ w.members.flatMap Member.lines ++
          ["\x7d", "", "export default " ++ c.aggregateName ++ ";", ""]) ∧
      ∀ name,
        ((∃ family kind, lookup ⟨t.registry, delegate, location⟩ name = .ok (.bound family kind)) ↔
          (∃ m ∈ w.members, m.name = name) ∧ isPrivate name = false) ∧
        (∀ family kind, lookup ⟨t.registry, delegate, location⟩ name = .ok (.bound family kind) →
          (∃ m ∈ w.members, m.name = name ∧ m.family = family ∧ m.kind = kind) ∧
            ∀ m' ∈ w.members, m'.name = name → m'.kind ≤ kind) ∧
        ∀ m, w.kept? name = some m → isPrivate name = false →
          (lookup ⟨t.registry, delegate, location⟩ name = .ok (.bound m.family m.kind) ↔
            ∀ m' ∈ w.members, m'.name = name → m'.kind ≤ m.kind) := by
  have hkinds : ∀ m ∈ (Wrapper.expected t c).members, m.kind ∈ t.registry.kindNames :=
    fun m hm => (Wrapper.mem_members_place_iff t c).mp ⟨m, hm, rfl⟩
  -- Whatever is found under a name is for the greatest kind that has a function with the name.
  have hgreatest : ∀ name family kind,
      lookup ⟨t.registry, delegate, location⟩ name = .ok (.bound family kind) →
      ∀ m' ∈ (Wrapper.expected t c).members, m'.name = name → m'.kind ≤ kind := by
    intro name family kind h m' hm' hname
    have hplace : m'.place.1.functionName m'.place.2 = name := hname
    exact kind_le_of_get?_dispatch (lookup_eq_bound_iff.mp h).2 (hkinds m' hm') hplace
  refine ⟨Wrapper.expected t c, _, Wrapper.ofRegistry_gives c before, Wrapper.lines_expected t c,
    fun name => ⟨?_, ?_, ?_⟩⟩
  · simp only [lookup_eq_bound_iff]
    constructor
    · rintro ⟨family, kind, hprivate, hget⟩
      obtain ⟨hkind, hname⟩ := mem_of_get?_dispatch hget
      obtain ⟨m, hm, hplace⟩ := (Wrapper.mem_members_place_iff t c).mpr hkind
      refine ⟨⟨m, hm, ?_⟩, hprivate⟩
      rw [← hname, ← hplace]
      rfl
    · rintro ⟨⟨m, hm, hname⟩, hprivate⟩
      obtain ⟨⟨family, kind⟩, hget⟩ := exists_get?_dispatch_iff.mpr ⟨m.place, hkinds m hm, hname⟩
      exact ⟨family, kind, hprivate, hget⟩
  · intro family kind h
    obtain ⟨hkind, hname⟩ := mem_of_get?_dispatch (lookup_eq_bound_iff.mp h).2
    obtain ⟨m, hm, hplace⟩ := (Wrapper.mem_members_place_iff t c).mpr hkind
    cases hplace
    exact ⟨⟨m, hm, hname, rfl, rfl⟩, hgreatest name _ _ h⟩
  · intro m hkept hprivate
    constructor
    · intro h
      exact hgreatest name _ _ h
    · intro hlatest
      exact lookup_eq_bound_iff.mpr ⟨hprivate, get?_dispatch_of_kept hkept hlatest⟩

def NodeKind.bare (name : String) (h : name ≠ "") : NodeKind where
  name := name
  builderKeys := []
  fields := ∅
  aliases := []
  name_ne := h
  builderKeys_fields := by simp

def Registry.single : Registry := .ofKinds [.bare "Identifier" (by decide)]

/-- Kinds whose builders have the names of own attributes. -/
def NodeKind.shadowing : List NodeKind :=
  [.bare "Build" (by decide), .bare "Current_location" (by decide), .bare "Delegate" (by decide),
    .bare "Registry" (by decide)]

/-- Kinds whose functions share names, and one with an underscore in front. -/
def Registry.colliding : Registry :=
  .ofKinds [.bare "A" (by decide), .bare "IsA" (by decide), .bare "IsZ" (by decide),
    .bare "Z" (by decide), .bare "_A" (by decide)]

/-- The builder of `IsZ` and the test for `Z` share a name, which is that of the test in the module
and for the builders. -/
theorem Builders.shared_name_agrees :
    ∃ w after, (Wrapper.ofRegistry (Generation.resolver .colliding {}) {}).run.run .none =
        (.ok w, after) ∧
      (∃ m ∈ w.members, m.name = "isZ" ∧ m.kind = "IsZ") ∧ w.kept? "isZ" = some (.test "Z") ∧
      (∀ m' ∈ w.members, m'.name = "isZ" → m'.kind ≤ "Z") ∧
      lookup ⟨.colliding, none, .null⟩ "isZ" = .ok (.bound .test "Z") := by
  obtain ⟨w, after, hrun, _, h⟩ :=
    lookup_agrees_with_wrapper (Generation.resolver .colliding {}) {} .none none .null
  have hexpected := Wrapper.ofRegistry_gives (t := Generation.resolver .colliding {}) {} .none
  rw [hexpected] at hrun
  cases hrun
  have hkept : (Wrapper.expected (Generation.resolver .colliding {}) {}).kept? "isZ" =
      some (.test "Z") := by decide
  have hlatest : ∀ m' ∈ (Wrapper.expected (Generation.resolver .colliding {}) {}).members,
      m'.name = "isZ" → m'.kind ≤ "Z" := by decide
  exact ⟨_, _, hexpected, by decide, hkept, hlatest, ((h "isZ").2.2 _ hkept rfl).mpr hlatest⟩

/-- The builder of `_A` is a member of the exported object, and its name is not that of a function
of the builders. Under `isA` the exported object keeps the test for `A`, and the builders have the
builder of `IsA`. -/
theorem Builders.underscored_and_shared_names_differ :
    ∃ w after, (Wrapper.ofRegistry (Generation.resolver .colliding {}) {}).run.run .none =
        (.ok w, after) ∧
      (∃ m ∈ w.members, m.name = "_A") ∧
      (∀ family kind, lookup ⟨.colliding, none, .null⟩ "_A" ≠ .ok (.bound family kind)) ∧
      w.kept? "isA" = some (.test "A") ∧
      lookup ⟨.colliding, none, .null⟩ "isA" = .ok (.bound .build "IsA") := by
  have hexpected := Wrapper.ofRegistry_gives (t := Generation.resolver .colliding {}) {} .none
  have hlookup : lookup ⟨.colliding, none, .null⟩ "_A" = .error (.unknownAttribute "_A") := rfl
  refine ⟨_, _, hexpected, by decide, ?_, by decide, rfl⟩
  intro family kind h
  rw [hlookup] at h
  cases h

end NodeSchema
