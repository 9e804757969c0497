import NodeSchema.Proofs.Printing
/-!
# The parameters of a builder

A builder has a parameter for every key, named after it. A reserved word cannot be the name of a
parameter and gets an underscore in front. No parameter has a reserved name then, but the new name
may be that of another key: the parameters are distinct unless a reserved word and the same word
with an underscore are keys of one builder.

* `parameterName_mem_reservedWords_iff` — when the new name is reserved again.
* `nodup_parameterNames_iff` — when the parameters are distinct, for any reserved words.
* `Wrapper.parameters_distinct_iff` — what the module says, for the reserved words by default.
* `Wrapper.underscored_key_repeats_parameter` — distinct keys with one parameter name.
-/

namespace NodeSchema

/-! ## 1. Names of parameters -/

section

variable {c : Config} {name : String} {keys : List String}

theorem parameterName_of_reserved (h : name ∈ c.reservedWords) :
    parameterName c name = "_" ++ name := if_pos h

theorem parameterName_of_not_reserved (h : name ∉ c.reservedWords) :
    parameterName c name = name := if_neg h

/-- A parameter has a reserved name only if the underscore leads to another reserved word. -/
theorem parameterName_mem_reservedWords_iff :
    parameterName c name ∈ c.reservedWords ↔
      name ∈ c.reservedWords ∧ "_" ++ name ∈ c.reservedWords := by
  by_cases h : name ∈ c.reservedWords
  · simp [parameterName_of_reserved h, h]
  · simp [parameterName_of_not_reserved h, h]

/-- The parameters are distinct if the keys are, and no reserved word is changed to a key that
stays as it is. -/
theorem nodup_parameterNames_iff :
    (keys.map (parameterName c)).Nodup ↔
      keys.Nodup ∧ ∀ word ∈ c.reservedWords, word ∈ keys → "_" ++ word ∈ keys →
        "_" ++ word ∈ c.reservedWords := by
  constructor
  · intro h
    refine ⟨h.of_map _, fun word hreserved hword hkey => ?_⟩
    by_contra hfree
    have hnames : parameterName c word = parameterName c ("_" ++ word) := by
      rw [parameterName_of_reserved hreserved, parameterName_of_not_reserved hfree]
    have hword : word = "_" ++ word := List.inj_on_of_nodup_map h hword hkey hnames
    exact hfree (hword ▸ hreserved)
  · rintro ⟨hkeys, hwords⟩
    refine (List.nodup_map_iff_inj_on hkeys).mpr fun a ha b hb hnames => ?_
    by_cases hra : a ∈ c.reservedWords <;> by_cases hrb : b ∈ c.reservedWords
    · rw [parameterName_of_reserved hra, parameterName_of_reserved hrb] at hnames
      exact (String.append_right_inj "_").mp hnames
    · rw [parameterName_of_reserved hra, parameterName_of_not_reserved hrb] at hnames
      subst hnames
      exact absurd (hwords a hra ha hb) hrb
    · rw [parameterName_of_not_reserved hra, parameterName_of_reserved hrb] at hnames
      subst hnames
      exact absurd (hwords b hrb hb ha) hra
    · rwa [parameterName_of_not_reserved hra, parameterName_of_not_reserved hrb] at hnames

end

/-! ## 2. The reserved words by default -/

def Config.withDefaultWords (c : Config) : Config :=
  { c with reservedWords := ({} : Config).reservedWords }

/-- An underscore in front makes no reserved word of a reserved word. -/
theorem Config.underscored_not_reserved (c : Config) :
    ∀ word ∈ c.withDefaultWords.reservedWords, "_" ++ word ∉ c.withDefaultWords.reservedWords := by
  show ∀ word ∈ ({} : Config).reservedWords, "_" ++ word ∉ ({} : Config).reservedWords
  decide

/-- With the default words, no parameter has a reserved word for a name. -/
theorem parameterName_not_reserved (c : Config) (name : String) :
    parameterName c.withDefaultWords name ∉ c.withDefaultWords.reservedWords := by
  intro h
  obtain ⟨hname, hunderscored⟩ := parameterName_mem_reservedWords_iff.mp h
  exact c.underscored_not_reserved name hname hunderscored

/-- With the default words, parameters share a name in one case only: a reserved word is a key, and
so is the word with an underscore in front. -/
theorem nodup_parameterNames_withDefaultWords_iff {c : Config} {keys : List String} :
    (keys.map (parameterName c.withDefaultWords)).Nodup ↔
      keys.Nodup ∧
        ∀ word ∈ c.withDefaultWords.reservedWords, word ∈ keys → "_" ++ word ∉ keys := by
  rw [nodup_parameterNames_iff]
  refine and_congr_right fun _ => ?_
  constructor
  · intro h word hreserved hword hkey
    exact c.underscored_not_reserved word hreserved (h word hreserved hword hkey)
  · intro h word hreserved hword hkey
    exact absurd hkey (h word hreserved hword)

/-! ## 3. The module -/

namespace Wrapper

/-- **When the parameters of a builder are distinct.** Whatever the other settings are, every kind
of a registry has one builder in the module, which prints its signature. There is a parameter for
every key, none of them with a reserved name. The names are distinct exactly when the keys are and
no reserved word is a key together with the same word with an underscore in front. -/
theorem parameters_distinct_iff (r : Registry) (c : Config) :
    ∃ g after,
      (Generation.ofRegistry r c.withDefaultWords).run.run .none = (.ok g, after) ∧
      ∀ kind k, r.get kind = .ok k → ∃ signature : Signature,
        g.wrapper.signaturesOf kind = [signature] ∧
        "  " ++ signature.text ++ " \x7b" ∈ g.wrapper.lines ∧
        signature.parameters.length = k.builderKeys.length ∧
        (∀ p ∈ signature.parameters, p.name ∉ ({} : Config).reservedWords) ∧
        ((signature.parameters.map Parameter.name).Nodup ↔
          k.builderKeys.Nodup ∧ ∀ word ∈ ({} : Config).reservedWords,
            word ∈ k.builderKeys → "_" ++ word ∉ k.builderKeys) := by
  let t := Generation.resolver r c.withDefaultWords
  refine ⟨_, _, Generation.ofRegistry_run_none r c.withDefaultWords, fun kind k hget => ?_⟩
  obtain ⟨hk, rfl⟩ := Registry.mem_sorted_of_get hget
  have hnames := Signature.map_name_parameters t c.withDefaultWords k
  refine ⟨Signature.expected t c.withDefaultWords k, signaturesOf_expected t _ hk,
    mem_lines_of_builder (builder_mem_expected t _ hk), ?_, fun p hp => ?_, ?_⟩
  · simp [Signature.expected]
  · have hname := List.mem_map_of_mem (f := Parameter.name) hp
    rw [hnames] at hname
    obtain ⟨key, _, hkey⟩ := List.mem_map.mp hname
    rw [← hkey]
    exact parameterName_not_reserved c key
  · rw [hnames]
    exact nodup_parameterNames_withDefaultWords_iff

/-! ## 4. A key with an underscore -/

/-- A registry document with one kind, whose builder takes `static` and `_static`. -/
def underscoredDocument : Value :=
  .object [
    ("NODE_FIELDS", .object [("Member", .object [("static", .object []), ("_static", .object [])])]),
    ("BUILDER_KEYS", .object [("Member", .list [.str "static", .str "_static"])])]

/-- The keys of a builder are distinct, and two of its parameters have one name. -/
theorem underscored_key_repeats_parameter :
    ∃ r k signature after,
      Registry.ofDocument underscoredDocument = .ok r ∧ r.get "Member" = .ok k ∧
      k.builderKeys.Nodup ∧
      (Signature.ofKind (Generation.resolver r {}) {} "Member").run.run .none =
        (.ok signature, after) ∧
      signature.text = "member(_static: mixed, _static: mixed): Member" ∧
      ¬ (signature.parameters.map Parameter.name).Nodup := by
  refine ⟨_, _, _, _, rfl, rfl, ?_, rfl, ?_, ?_⟩
  · decide
  · decide
  · decide

end Wrapper

end NodeSchema
