import NodeSchema.Proofs.Builders.Names
/-!
# Kinds with ordinary names

Functions of different kinds or families can share a name, and then one of them is lost. With
ordinary names this does not happen: every kind starts with a capital letter, and none is another
kind with one of the words `Is`, `As` and `Assert` in front. What stands before the first capital
letter of a name then tells the families other than the builders apart, and the name of a builder
could only be that of another function if its kind had one of these words in front.

* `Text.lowerCase_of_isUpper` — the lower-case forms of capital letters.
* `Family.takeWhile_functionName` — the word in front of a kind.
* `functionName_injective` — no two functions share a name.
* `ordinary_names_keep_functions` — what follows for the module and the builders.
-/

namespace NodeSchema

/-! ## 1. Capital letters -/

namespace Text

/-- The capital letters are 26 characters one after the other. -/
theorem of_isUpper {P : Char → Prop} (h : ∀ n < 26, P (Char.ofNat (65 + n))) {c : Char}
    (hc : c.isUpper = true) : P c := by
  have hletters : 'A'.val ≤ c.val ∧ c.val ≤ 'Z'.val := of_decide_eq_true hc
  have hbounds : 65 ≤ c.toNat ∧ c.toNat ≤ 90 :=
    ⟨UInt32.le_iff_toNat_le.mp hletters.1, UInt32.le_iff_toNat_le.mp hletters.2⟩
  have hletter := h (c.toNat - 65) (by omega)
  rwa [Nat.add_sub_cancel' hbounds.1, Char.ofNat_toNat] at hletter

/-- A capital letter becomes one letter, not more, as some other characters do. -/
theorem lowerCase_of_isUpper {c : Char} (h : c.isUpper = true) : lowerCase c = [c.toLower] :=
  of_isUpper (P := fun c => lowerCase c = [c.toLower]) (by decide) h

theorem toUpper_toLower_of_isUpper {c : Char} (h : c.isUpper = true) : c.toLower.toUpper = c :=
  of_isUpper (P := fun c => c.toLower.toUpper = c) (by decide) h

theorem toLower_ne_underscore {c : Char} (h : c.isUpper = true) : c.toLower ≠ '_' :=
  of_isUpper (P := fun c => c.toLower ≠ '_') (by decide) h

end Text

def StartsCapital (kind : String) : Prop := kind.toList.head?.any Char.isUpper = true

instance (kind : String) : Decidable (StartsCapital kind) :=
  inferInstanceAs (Decidable (kind.toList.head?.any Char.isUpper = true))

theorem StartsCapital.exists {kind : String} (h : StartsCapital kind) :
    ∃ c rest, kind.toList = c :: rest ∧ c.isUpper = true := by
  unfold StartsCapital at h
  cases hkind : kind.toList with
  | nil => rw [hkind] at h; cases h
  | cons c rest => rw [hkind] at h; exact ⟨c, rest, rfl, h⟩

/-! ## 2. The names of functions -/

namespace Family

/-- The word in front of the kind in the name of a function. -/
def verb : Family → String
  | .build => ""
  | .test => "is"
  | .require => "assert"
  | .cast => "as"

def title : Family → String
  | .build => ""
  | .test => "Is"
  | .require => "Assert"
  | .cast => "As"

variable {f g : Family} {kind other : String}

/-- Every function that is no builder has a word and its kind for a name. -/
theorem functionName_eq_verb (hf : f ≠ .build) (kind : String) :
    f.functionName kind = f.verb ++ kind := by
  cases f with
  | build => exact absurd rfl hf
  | _ => rfl

/-- A builder has its kind for a name, with a small letter in front. -/
theorem toList_builderName {c : Char} {rest : List Char} (hkind : kind.toList = c :: rest)
    (hc : c.isUpper = true) : (builderName kind).toList = c.toLower :: rest := by
  simp [builderName, Text.lowerFirst, hkind, Text.lowerCase_of_isUpper hc]

/-- What stands before the first capital letter is the word in front of the kind. -/
theorem takeWhile_functionName (hf : f ≠ .build) (h : StartsCapital kind) :
    (f.functionName kind).toList.takeWhile (!·.isUpper) = f.verb.toList := by
  obtain ⟨c, rest, hkind, hc⟩ := h.exists
  have hverb : ∀ a ∈ f.verb.toList, (!a.isUpper) = true :=
    List.all_eq_true.mp (by cases f <;> rfl)
  rw [functionName_eq_verb hf, String.toList_append, hkind, List.takeWhile_append_of_pos hverb]
  simp [hc]

theorem eq_of_verb_eq (h : f.verb.toList = g.verb.toList) : f = g := by
  revert h
  cases f <;> cases g <;> decide

/-- Two functions with one name that are no builders are the same. -/
theorem functionName_injective_of_ne_build (hf : f ≠ .build) (hg : g ≠ .build)
    (hkind : StartsCapital kind) (hother : StartsCapital other)
    (h : f.functionName kind = g.functionName other) : f = g ∧ kind = other := by
  have hverb : f.verb.toList = g.verb.toList := by
    rw [← takeWhile_functionName hf hkind, h, takeWhile_functionName hg hother]
  cases eq_of_verb_eq hverb
  rw [functionName_eq_verb hf, functionName_eq_verb hf] at h
  refine ⟨rfl, String.toList_injective ?_⟩
  have hlist := congrArg String.toList h
  rw [String.toList_append, String.toList_append] at hlist
  exact List.append_cancel_left hlist

/-- A builder has the name of another function only if its kind has the word of the other one in
front. -/
theorem eq_title_append (hf : f ≠ .build) (hkind : StartsCapital kind)
    (h : builderName kind = f.functionName other) : kind = f.title ++ other := by
  obtain ⟨c, rest, hlist, hc⟩ := hkind.exists
  have hname := congrArg String.toList h
  rw [toList_builderName hlist hc, functionName_eq_verb hf, String.toList_append] at hname
  refine String.toList_injective ?_
  rw [hlist, ← Text.toUpper_toLower_of_isUpper hc, String.toList_append]
  cases f with
  | build => exact absurd rfl hf
  | _ =>
    obtain ⟨hfirst, hrest⟩ := List.cons.inj hname
    rw [hfirst, hrest]
    rfl

/-- Two builders with one name are the same. -/
theorem builderName_injective (hkind : StartsCapital kind) (hother : StartsCapital other)
    (h : builderName kind = builderName other) : kind = other := by
  obtain ⟨c, rest, hlist, hc⟩ := hkind.exists
  obtain ⟨c', rest', hlist', hc'⟩ := hother.exists
  have hname := congrArg String.toList h
  rw [toList_builderName hlist hc, toList_builderName hlist' hc'] at hname
  obtain ⟨hfirst, hrest⟩ := List.cons.inj hname
  refine String.toList_injective ?_
  rw [hlist, hlist', hrest, ← Text.toUpper_toLower_of_isUpper hc, hfirst,
    Text.toUpper_toLower_of_isUpper hc']

end Family

/-- Kinds with ordinary names: they start with a capital letter, and none is another one with the
word of a family in front. -/
structure Registry.HasOrdinaryNames (r : Registry) : Prop where
  capital : ∀ kind ∈ r.kindNames, StartsCapital kind
  unprefixed : ∀ kind ∈ r.kindNames, ∀ other ∈ r.kindNames, kind ≠ other →
    kind ≠ "Is" ++ other ∧ kind ≠ "As" ++ other ∧ kind ≠ "Assert" ++ other

namespace Registry.HasOrdinaryNames

variable {r : Registry} (h : r.HasOrdinaryNames)

include h

/-- With ordinary names, no kind is a kind with the word of a family in front. -/
theorem ne_title_append {f : Family} (hf : f ≠ .build) {kind other : String}
    (hkind : kind ∈ r.kindNames) (hother : other ∈ r.kindNames) : kind ≠ f.title ++ other := by
  intro hsame
  have hne : kind ≠ other := by
    intro heq
    have hlength := congrArg String.length (heq.symm.trans hsame)
    cases f with
    | build => exact hf rfl
    | _ => simp [Family.title] at hlength
  obtain ⟨hIs, hAs, hAssert⟩ := h.unprefixed kind hkind other hother hne
  cases f with
  | build => exact hf rfl
  | test => exact hIs hsame
  | require => exact hAssert hsame
  | cast => exact hAs hsame

/-- Where kinds have ordinary names, no two functions share a name. -/
theorem functionName_injective {p q : FunctionPlace} (hp : p.2 ∈ r.kindNames)
    (hq : q.2 ∈ r.kindNames) (hname : p.1.functionName p.2 = q.1.functionName q.2) : p = q := by
  obtain ⟨f, kind⟩ := p
  obtain ⟨g, other⟩ := q
  have hkind := h.capital kind hp
  have hother := h.capital other hq
  by_cases hf : f = .build
  · subst hf
    by_cases hg : g = .build
    · subst hg
      rw [Family.builderName_injective hkind hother hname]
    · exact absurd (Family.eq_title_append hg hkind hname) (h.ne_title_append hg hp hq)
  · by_cases hg : g = .build
    · subst hg
      exact absurd (Family.eq_title_append hf hother hname.symm) (h.ne_title_append hf hq hp)
    · obtain ⟨rfl, rfl⟩ := Family.functionName_injective_of_ne_build hf hg hkind hother hname
      rfl

/-- With ordinary names, no function has an underscore in front of its name. -/
theorem isPrivate_functionName (f : Family) {kind : String} (hkind : kind ∈ r.kindNames) :
    Builders.isPrivate (f.functionName kind) = false := by
  obtain ⟨c, rest, hlist, hc⟩ := (h.capital kind hkind).exists
  cases f with
  | build =>
    have hname : (Family.build.functionName kind).toList = c.toLower :: rest :=
      Family.toList_builderName hlist hc
    simp [Builders.isPrivate, hname, Text.toLower_ne_underscore hc]
  | _ => simp [Builders.isPrivate, Family.functionName]

end Registry.HasOrdinaryNames

/-! ## 3. The members of the module -/

theorem FunctionPlace.not_beforeInModule_self (p : FunctionPlace) : ¬ p.BeforeInModule p := by
  intro h
  rcases h with hrank | ⟨_, hkind⟩
  · exact Nat.lt_irrefl _ hrank
  · exact String.lt_irrefl _ hkind

theorem FunctionPlace.not_beforeInBuilders_self (p : FunctionPlace) : ¬ p.BeforeInBuilders p := by
  intro h
  rcases h with hkind | ⟨_, hrank⟩
  · exact String.lt_irrefl _ hkind
  · exact Nat.lt_irrefl _ hrank

/-- The first line of a member starts with its name. -/
theorem Member.head?_lines (m : Member) :
    ∃ rest, m.lines.head? = some ("  " ++ m.name ++ "(" ++ rest) := by
  cases m with
  | builder s =>
    refine ⟨", ".intercalate (s.parameters.map Parameter.text) ++ "): " ++ s.kind ++ " \x7b", ?_⟩
    simp [lines, name, family, kind, Family.functionName, Signature.text, String.append_assoc]
  | test k =>
    refine ⟨"value: any, opts?: Object): boolean \x7b", congrArg some (String.toList_injective ?_)⟩
    simp [name, family, kind, Family.functionName]
  | require k =>
    refine ⟨"value: " ++ k ++ ", opts?: Object): mixed \x7b",
      congrArg some (String.toList_injective ?_)⟩
    simp [name, family, kind, Family.functionName]
  | cast k =>
    refine ⟨"value: any, opts?: Object): " ++ k ++ " | void \x7b",
      congrArg some (String.toList_injective ?_)⟩
    simp [name, family, kind, Family.functionName]

namespace Wrapper

variable (t : TypeResolver) (c : Config)

/-- Every kind has one member of each family. -/
theorem places_of_kind {kind : String} (hkind : kind ∈ t.registry.kindNames) :
    ((expected t c).members.filter (·.kind = kind)).map Member.place =
      Family.all.map (·, kind) := by
  have hfilter : ((expected t c).members.filter (·.kind = kind)).map Member.place =
      ((expected t c).members.map Member.place).filter (·.2 = kind) := by
    rw [List.filter_map]
    rfl
  have hone : ∀ f : Family, (t.registry.kindNames.map (f, ·)).filter (·.2 = kind) =
      [(f, kind)] := by
    intro f
    have hnodup : ((t.registry.kindNames.map (f, ·)).map Prod.snd).Nodup := by
      simpa [Function.comp_def] using t.registry.nodup_kindNames
    exact filter_tag_eq_singleton Prod.snd hnodup (List.mem_map_of_mem hkind)
  rw [hfilter, places_members, List.filter_flatMap]
  simp [hone, Family.all]

theorem kind_mem_of_mem {m : Member} (hm : m ∈ (expected t c).members) :
    m.kind ∈ t.registry.kindNames :=
  (mem_members_place_iff t c).mp ⟨m, hm, rfl⟩

/-- No two members have one name. -/
theorem nodup_name_members (h : t.registry.HasOrdinaryNames) :
    ((expected t c).members.map Member.name).Nodup := by
  rw [List.Nodup, List.pairwise_map]
  refine (pairwise_members t c).imp_of_mem fun {m m'} hm hm' hbefore hname => ?_
  have hplace : m.place = m'.place :=
    h.functionName_injective (kind_mem_of_mem t c hm) (kind_mem_of_mem t c hm') hname
  rw [hplace] at hbefore
  exact FunctionPlace.not_beforeInModule_self _ hbefore

end Wrapper

/-! ## 4. The attributes of the builders -/

namespace Builders

variable {b : Builders}

/-- With ordinary names, the builders have every function under its name. -/
theorem lookup_functionName (h : b.registry.HasOrdinaryNames) (f : Family) {kind : String}
    (hkind : kind ∈ b.registry.kindNames) :
    b.lookup (f.functionName kind) = .ok (.bound f kind) := by
  refine lookup_eq_bound_iff.mpr ⟨h.isPrivate_functionName f hkind, ?_⟩
  refine get?_dispatch_of_last (p := (f, kind)) hkind rfl fun q hq hname hafter => ?_
  cases h.functionName_injective (p := q) (q := (f, kind)) hq hkind hname
  exact FunctionPlace.not_beforeInBuilders_self _ hafter

end Builders

/-- **With ordinary names no function is lost.** The module has exactly four members for every kind,
one of each family; they stand family by family, in ascending order of the kinds, each under a name
of its own with which its first line starts, and so they are printed between the braces of the
exported object. The builders have all functions of all kinds under
their names, also where an attribute of their own has the name; all other names are looked up among
their own attributes. -/
theorem ordinary_names_keep_functions (t : TypeResolver) (c : Config) (before : Findings)
    (h : t.registry.HasOrdinaryNames) :
    (∃ w after, (Wrapper.ofRegistry t c).run.run before = (.ok w, after) ∧
      w.members.map Member.place =
        Family.all.flatMap (fun f => t.registry.kindNames.map (f, ·)) ∧
      t.registry.kindNames.Pairwise (· < ·) ∧
      (∀ kind ∈ t.registry.kindNames,
        (w.members.filter (·.kind = kind)).map Member.place = Family.all.map (·, kind)) ∧
      (w.members.map Member.name).Nodup ∧
      (∃ head, w.lines =
        head ++ ["const " ++ c.aggregateName ++ " = \x7b"] ++ w.members.flatMap Member.lines ++
          ["\x7d", "", "export default " ++ c.aggregateName ++ ";", ""]) ∧
      ∀ m ∈ w.members, m.lines <:+: w.lines ∧
        ∃ rest, m.lines.head? = some ("  " ++ m.name ++ "(" ++ rest)) ∧
    ∀ b : Builders, b.registry = t.registry →
      (∀ kind ∈ t.registry.kindNames, ∀ f : Family,
        b.lookup (f.functionName kind) = .ok (.bound f kind)) ∧
      ∀ name, (∀ kind ∈ t.registry.kindNames, ∀ f : Family, f.functionName kind ≠ name) →
        b.lookup name = Builders.ownAttribute name := by
  refine ⟨⟨Wrapper.expected t c, _, Wrapper.ofRegistry_gives c before,
    Wrapper.places_members t c, t.registry.pairwise_lt_kindNames,
    fun kind hkind => Wrapper.places_of_kind t c hkind, Wrapper.nodup_name_members t c h,
    Wrapper.lines_expected t c, fun m hm => ⟨Wrapper.infix_lines_of_mem hm, m.head?_lines⟩⟩, ?_⟩
  intro b hb
  rw [← hb] at h ⊢
  exact ⟨fun kind hkind f => Builders.lookup_functionName h f hkind,
    fun name hname => Builders.lookup_of_no_function hname⟩

/-- Kinds with ordinary names, most of which have builders with the names of other attributes. -/
def Registry.shadowing : Registry := .ofKinds (NodeKind.shadowing ++ [.bare "Point" (by decide)])

/-- The builders of `Delegate` and `Build` take the place of the attributes with their names. -/
theorem functions_take_precedence :
    Registry.shadowing.HasOrdinaryNames ∧
      Builders.ownAttribute "delegate" = .ok .delegate ∧
      Builders.lookup ⟨.shadowing, none, .null⟩ "delegate" = .ok (.bound .build "Delegate") ∧
      Builders.ownAttribute "build" = .ok (.operation .build) ∧
      Builders.lookup ⟨.shadowing, none, .null⟩ "build" = .ok (.bound .build "Build") ∧
      Builders.lookup ⟨.shadowing, none, .null⟩ "is_kind" = .ok (.operation .test) := by
  have hnames : Registry.shadowing.HasOrdinaryNames := ⟨by decide, by decide⟩
  obtain ⟨_, hbuilders⟩ :=
    ordinary_names_keep_functions (Generation.resolver .shadowing {}) {} .none hnames
  obtain ⟨hfunctions, hothers⟩ := hbuilders ⟨.shadowing, none, .null⟩ rfl
  have hfree : ∀ kind ∈ Registry.shadowing.kindNames, ∀ f : Family,
      f.functionName kind ≠ "is_kind" := by
    intro kind hkind f
    cases f <;> revert kind <;> decide
  exact ⟨hnames, rfl, hfunctions "Delegate" (by decide) .build, rfl,
    hfunctions "Build" (by decide) .build, hothers "is_kind" hfree⟩

end NodeSchema
