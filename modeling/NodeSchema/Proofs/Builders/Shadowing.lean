import NodeSchema.Proofs.Builders.Histories
import NodeSchema.Proofs.Builders.Names
/-!
# Shadowed attributes

The functions for a kind can have the names of attributes that builders have of their own, and then
take their place. An operation that looked for the delegate under `delegate`, or for the test under
`is_kind`, would come upon the function of a kind with such a name. But the operations look under
names with an underscore in front, which no function takes, and the cast looks for the test among
the methods. So further kinds, whatever they are called, change nothing about the functions for a
kind.

* `callOperation_congr` — of a registry only the kind in question counts.
* `castFollowsTest` — the cast in terms of the test.
* `further_kinds_disturb_nothing` — both together.
-/

namespace NodeSchema

/-! ## 1. Further kinds -/

namespace Registry

def plus (r : Registry) (further : List NodeKind) : Registry := further.foldl insert r

variable {r : Registry} {kind : String}

theorem contains_insert (h : r.contains kind = true) (k : NodeKind) :
    (r.insert k).contains kind = true :=
  contains_iff.mpr (Table.mem_keys_insert.mpr (Or.inl (contains_iff.mp h)))

/-- Kinds stay when others are added. -/
theorem contains_plus (h : r.contains kind = true) (further : List NodeKind) :
    (r.plus further).contains kind = true := by
  induction further generalizing r with
  | nil => exact h
  | cons k rest ih => exact ih (contains_insert h k)

end Registry

namespace Builders

/-! ## 2. Calls -/

def call (b : Builders) (a : Attribute) (args : List Value) : Outcome Answer :=
  match a.operation? args with
  | some operation => (b.perform operation).2
  | none => ⟨[], .error .badCall⟩

/-- Calling the function for a kind is calling the operation with this kind. -/
theorem call_bound (b : Builders) (family : Family) (kind : String) (args : List Value) :
    b.call (.bound family kind) args = b.callOperation family (.str kind) args := rfl

/-- The function for a kind is the method of its family, called with the kind first. -/
theorem call_method (b : Builders) (family : Family) (kind : String) (args : List Value) :
    ∃ a, method (operationName family) = .ok a ∧
      b.call a (.str kind :: args) = b.call (.bound family kind) args :=
  ⟨.operation family, method_operationName family, rfl⟩

/-- Of the registry an operation sees no more than whether the kind is there. -/
theorem callOperation_congr {r r' : Registry} {kind : String}
    (h : r'.contains kind = r.contains kind) (delegate : Option Delegate) (location : Value)
    (family : Family) (args : List Value) :
    callOperation ⟨r', delegate, location⟩ family (.str kind) args =
      callOperation ⟨r, delegate, location⟩ family (.str kind) args := by
  have hfunction : delegateFunction ⟨r', delegate, location⟩ family (.str kind) =
      delegateFunction ⟨r, delegate, location⟩ family (.str kind) := by
    rw [delegateFunction_str, delegateFunction_str]
    simp only [h]
  cases hargs : accepts family args.length with
  | false => simp [callOperation, hargs]
  | true =>
    cases hfound : delegateFunction ⟨r, delegate, location⟩ family (.str kind) with
    | error e =>
      rw [callOperation_of_error hargs hfound,
        callOperation_of_error hargs (hfunction.trans hfound)]
    | ok found =>
      rw [callOperation_of_ok hargs hfound, callOperation_of_ok hargs (hfunction.trans hfound)]
      rfl

/-! ## 3. Tests and casts -/

/-- What a cast of a value gives, beside what the test gives: the value where the test holds, null
where it fails, and the same error. -/
inductive CastGives (v : Value) : Except Error Answer → Except Error Answer → Prop
  | holds : CastGives v (.ok (.ofValue (.bool true))) (.ok (.ofValue v))
  | fails : CastGives v (.ok (.ofValue (.bool false))) (.ok (.ofValue .null))
  | raises (e : Error) : CastGives v (.error e) (.error e)

/-- How the cast of a value with options, or without, goes by the test of a kind. -/
structure CastFollowsTest (b : Builders) (kind : String) (v : Value) (options : Option Value) :
    Prop where
  result : CastGives v (b.call (.bound .test kind) (v :: options.toList)).result
    (b.call (.bound .cast kind) (v :: options.toList)).result
  sameCalls : (b.call (.bound .cast kind) (v :: options.toList)).calls =
    (b.call (.bound .test kind) (v :: options.toList)).calls
  -- Options are passed on if they are not null.
  oneCall : ∀ d f, b.delegate = some d → d.function? ("is" ++ kind) = some f →
    (b.call (.bound .test kind) (v :: options.toList)).calls =
      [⟨"is" ++ kind, v :: (options.filter (!·.isNull)).toList⟩]
  -- Where there is nothing to call, both fail.
  noCall : (∀ d f, b.delegate = some d → d.function? ("is" ++ kind) ≠ some f) →
    (b.call (.bound .test kind) (v :: options.toList)).calls = [] ∧
      ∃ e, (b.call (.bound .test kind) (v :: options.toList)).result = .error e

section

variable (b : Builders) (kind : String) (v : Value) (options : Option Value)

theorem accepts_value_options (family : Family) :
    accepts family (v :: options.toList).length = true := by
  cases family <;> cases options <;> rfl

theorem passedArgs_test :
    passedArgs .test (v :: options.toList) = v :: (options.filter (!·.isNull)).toList := by
  cases options with
  | none => rfl
  | some o => cases ho : o.isNull <;> simp [passedArgs, Option.filter, ho]

/-- What a cast makes of a reply follows what the test makes of it. -/
theorem castGives_conclude (reply : Except Raised Reply) :
    CastGives v ((b.conclude .test (v :: options.toList) reply).map .reply)
      ((b.conclude .cast (v :: options.toList) reply).map .reply) := by
  cases reply with
  | error e => exact .raises _
  | ok reply =>
    simp only [conclude, finish]
    cases reply.truthy with
    | true => exact .holds
    | false => exact .fails

/-- The cast looks for the function that the test looks for, and calls it with its arguments. -/
theorem cast_follows_test :
    CastGives v (b.callOperation .test (.str kind) (v :: options.toList)).result
        (b.callOperation .cast (.str kind) (v :: options.toList)).result ∧
      (b.callOperation .cast (.str kind) (v :: options.toList)).calls =
        (b.callOperation .test (.str kind) (v :: options.toList)).calls := by
  have htest := accepts_value_options v options .test
  have hcast := accepts_value_options v options .cast
  have hsame : b.delegateFunction .cast (.str kind) = b.delegateFunction .test (.str kind) := rfl
  cases hfunction : b.delegateFunction .test (.str kind) with
  | error e =>
    rw [callOperation_of_error htest hfunction,
      callOperation_of_error hcast (hsame.trans hfunction)]
    exact ⟨.raises e, rfl⟩
  | ok found =>
    rw [callOperation_of_ok htest hfunction, callOperation_of_ok hcast (hsame.trans hfunction)]
    exact ⟨castGives_conclude b v options _, rfl⟩

variable {b kind}

/-- A cast follows the test, whatever the delegate replies, and if there is none. -/
theorem castFollowsTest (hkind : b.registry.contains kind = true) :
    b.CastFollowsTest kind v options := by
  have hargs := accepts_value_options v options .test
  obtain ⟨hresult, hcalls⟩ := cast_follows_test b kind v options
  refine ⟨hresult, hcalls, fun d f hdelegate hf => ?_, fun hnone => ?_⟩
  · rw [call_bound, callOperation_of_function hargs hkind hdelegate hf, passedArgs_test]
    rfl
  · rw [call_bound]
    cases hdelegate : b.delegate with
    | none =>
      rw [callOperation_of_noDelegate hargs hkind hdelegate]
      exact ⟨rfl, _, rfl⟩
    | some d =>
      have hf : d.function? (delegateName .test kind) = none :=
        Option.eq_none_iff_forall_ne_some.mpr fun f => hnone d f hdelegate
      rw [callOperation_of_noFunction hargs hkind hdelegate hf]
      exact ⟨rfl, _, rfl⟩

end

/-! ## 4. The main statement -/

/-- **Shadowing does not disturb the operations.** The four functions for a kind answer and call the
delegate as they would without any further kinds, whatever names these have. With them and without,
a function is the method of its family, called with the kind first; a name with an underscore in
front, which is what the operations look up, is always that of an own attribute; and the cast makes
the call of the test, gives the value where the test holds and null where it fails, and raises what
the test raises. -/
theorem further_kinds_disturb_nothing {r : Registry} {kind : String}
    (hkind : r.contains kind = true) (further : List NodeKind) (delegate : Option Delegate)
    (location : Value) :
    (∀ family args,
      call ⟨r.plus further, delegate, location⟩ (.bound family kind) args =
        call ⟨r, delegate, location⟩ (.bound family kind) args) ∧
    ∀ r' ∈ [r, r.plus further],
      (∀ family args, ∃ a, method (operationName family) = .ok a ∧
        call ⟨r', delegate, location⟩ a (.str kind :: args) =
          call ⟨r', delegate, location⟩ (.bound family kind) args) ∧
      (∀ name, isPrivate name = true →
        lookup ⟨r', delegate, location⟩ name = ownAttribute name) ∧
      ∀ v options, CastFollowsTest ⟨r', delegate, location⟩ kind v options := by
  have hplus : (r.plus further).contains kind = true := Registry.contains_plus hkind further
  have hboth : ∀ r' ∈ [r, r.plus further], r'.contains kind = true := by
    simp only [List.forall_mem_cons, hkind, hplus, true_and]
    exact List.forall_mem_nil _
  refine ⟨fun family args => ?_, fun r' hr' => ⟨?_, ?_, ?_⟩⟩
  · rw [call_bound, call_bound]
    exact callOperation_congr (hplus.trans hkind.symm) delegate location family args
  · exact fun family args => call_method _ family kind args
  · exact fun name => lookup_of_isPrivate
  · exact fun v options => castFollowsTest v options (hboth r' hr')

/-- Builders with further kinds, whose functions have the names of own attributes. -/
def crowded : Builders :=
  ⟨.plus .single (NodeKind.shadowing ++ [.bare "_kind" (by decide)]),
    some (Script.delegate ⟨["Identifier"], []⟩ 0), .null⟩

-- Operations that looked for the delegate without the underscore, or for the test among all
-- attributes, would come upon the functions.
example : crowded.under "delegate" crowded.heldDelegate? = .error .badCall ∧
    serve crowded.tests? (crowded.lookup "is_kind") = .error .badCall := ⟨rfl, rfl⟩

/-- What has the name of the test is not the test, and the cast works all the same. -/
theorem crowded_cast_works :
    ∃ node, node = Value.object [("type", .str "Identifier")] ∧
      crowded.lookup "is_kind" = .ok (.bound .test "_kind") ∧
      crowded.lookup "delegate" = .ok (.bound .build "Delegate") ∧
      crowded.call (.bound .cast "Identifier") [node, .null] =
        ⟨[⟨"isIdentifier", [node]⟩], .ok (.ofValue node)⟩ ∧
      crowded.CastFollowsTest "Identifier" node (some .null) := by
  have hkind : Registry.single.contains "Identifier" = true := by decide
  obtain ⟨hsame, hboth⟩ := further_kinds_disturb_nothing hkind _
    (some (Script.delegate ⟨["Identifier"], []⟩ 0)) .null
  refine ⟨_, rfl, by rfl, by rfl, (hsame .cast _).trans rfl, ?_⟩
  exact (hboth _ (by simp)).2.2 _ _

end Builders

end NodeSchema
