import NodeSchema.Code
import NodeSchema.Proofs.Builders.Histories
import NodeSchema.Proofs.Builders.Names
/-!
# The calling convention of the module

A builder of the wrapper module and the operation that builds nodes treat their arguments alike: a
location at the end is kept for the node, and all else is passed on. Whether there is one is decided
by the code of the module in one case and by `Value.isLocation` in the other. The first asks
`typeof`, for which null and lists are objects too; the second asks for objects. So the two part
ways over an argument at the end with null or a list for `start` or `end`, and only there.

* `Member.lines_builder` — the lines of a builder are those of `Code.builderBody`.
* `Code.holds_locationTest` — what the code takes for a location.
* `Code.Clear` — the parameters that leave the names alone which the code needs for itself.
* `Code.runBuilder_eq` — what the code of a builder comes to, for all arguments.
* `Builders.build_agrees_with_module` — where the two agree.
* `Builders.null_ends_part_ways` — where they do not.
-/

namespace NodeSchema

/-! ## 1. The lines of a builder -/

/-- The lines of a builder are its signature and its body. -/
theorem Member.lines_builder (s : Signature) :
    (Member.builder s).lines =
      ["  " ++ s.text ++ " \x7b"] ++
        (Code.builderBody s.kind).flatMap (Code.Statement.lines "    ") ++ ["  \x7d,"] := by
  simp [Member.lines, Code.builderBody, Code.Statement.lines, Code.Expression.text,
    Code.locationTest, String.append_assoc]

/-! ## 2. What the code takes for a location -/

/-- Whether `typeof` gives a value out as an object. -/
def Value.countsAsObject : Value → Bool
  | .null => true
  | .list _ => true
  | .object _ => true
  | _ => false

/-- Whether a value has two ends of some kind. -/
def Value.hasEnds (ok : Value → Bool) (v : Value) : Bool :=
  (v.member? "start").any ok && (v.member? "end").any ok

def Value.isTaken (v : Value) : Bool := v.hasEnds Value.countsAsObject

namespace Code

/-- What the code finds out with `typeof` about a value. -/
theorem Result.isText_typeOf (v : Value) :
    (Result.value (.str (Result.value v).typeOf)).isText "object" = v.countsAsObject := by
  cases v <;> rfl

theorem Result.isText_typeOf_ofOption (o : Option Value) :
    (Result.value (.str (Result.ofOption o).typeOf)).isText "object" =
      o.any Value.countsAsObject := by
  cases o with
  | none => rfl
  | some v => exact isText_typeOf v

/-- `Holds s e b` — the expression does not fail, and a test of it has this outcome. -/
def Holds (s : Scope) (e : Expression) (b : Bool) : Prop :=
  ∃ r, e.eval s = some r ∧ r.passes = b

section

variable {s : Scope}

/-- The second of two tests is made only if the first one succeeds. -/
theorem Holds.both {first second : Expression} {a b : Bool} (hfirst : Holds s first a)
    (hsecond : a = true → Holds s second b) : Holds s (.both first second) (a && b) := by
  obtain ⟨r, hr, hpasses⟩ := hfirst
  cases a with
  | false => exact ⟨r, by simp [Expression.eval, hr, hpasses], hpasses⟩
  | true =>
    obtain ⟨r', hr', hb⟩ := hsecond rfl
    exact ⟨r', by simp [Expression.eval, hr, hpasses, hr'], hb⟩

variable {v : Value} (hloc : lookupEntry "loc" s.names = some (.value v))

include hloc

theorem holds_loc : Holds s (.name "loc") (Result.value v).passes := ⟨.value v, hloc, rfl⟩

theorem holds_typeOf_loc :
    Holds s (.isText (.typeOf (.name "loc")) "object") v.countsAsObject := by
  refine ⟨.value (.bool v.countsAsObject), ?_, rfl⟩
  simp [Expression.eval, hloc, Result.isText_typeOf]

/-- A value with which a test succeeds may be asked for a member; the member need not be there. -/
theorem holds_typeOf_member (key : String) (hpasses : (Result.value v).passes = true) :
    Holds s (.isText (.typeOf (.member (.name "loc") key)) "object")
      ((v.member? key).any Value.countsAsObject) := by
  have hmember : (Result.value v).member? key = some (.ofOption (v.member? key)) := by
    cases v with
    | null => cases hpasses
    | _ => rfl
  refine ⟨.value (.bool ((v.member? key).any Value.countsAsObject)), ?_, rfl⟩
  simp [Expression.eval, hloc, hmember, Result.isText_typeOf_ofOption]

/-- The test for a location never fails, and succeeds with what the module takes for one. -/
theorem holds_locationTest : Holds s locationTest v.isTaken := by
  have htest := (((holds_loc hloc).both fun _ => holds_typeOf_loc hloc).both
    fun h => holds_typeOf_member hloc "start" (Bool.and_eq_true_iff.mp h).1).both
    fun h => holds_typeOf_member hloc "end"
      (Bool.and_eq_true_iff.mp (Bool.and_eq_true_iff.mp h).1).1
  have hsame : v.isTaken = ((((Result.value v).passes && v.countsAsObject) &&
      (v.member? "start").any Value.countsAsObject) &&
        (v.member? "end").any Value.countsAsObject) := by
    cases v with
    | object members => rfl
    | _ => simp [Value.isTaken, Value.hasEnds, Value.member?]
  rwa [← hsame] at htest

end

/-! ## 3. What the code comes to -/

def takenLocation? (args : List Value) : Option Value := args.getLast?.filter Value.isTaken

/-- Nothing but the last argument can be taken for the location. -/
theorem takenLocation?_concat (front : List Value) (last : Value) :
    takenLocation? (front ++ [last]) = if last.isTaken then some last else none := by
  simp [takenLocation?, Option.filter]

def ownNames : List String := ["t", "getCurrentLocation", "arguments", "args", "loc", "hasLoc"]

/-- `Clear parameters` — the parameters of a builder have distinct names, and none of them has a
name that the code needs for itself. -/
structure Clear (parameters : List String) : Prop where
  nodup : parameters.Nodup
  disjoint : ∀ n ∈ ownNames, n ∉ parameters

/-- A declared name hides any other with its spelling, and no more. -/
@[simp] theorem lookupEntry_withName (s : Scope) (n m : String) (r : Result) :
    lookupEntry m (s.withName n r).names = if n = m then some r else lookupEntry m s.names :=
  lookupEntry_insertEntry n m r s.names

@[simp] theorem currentLocation_withName (s : Scope) (n : String) (r : Result) :
    (s.withName n r).currentLocation = s.currentLocation := rfl

theorem run_cons_of_goOn {s s' : Scope} {first : Statement} (h : first.step s = some (.goOn s'))
    (rest : List Statement) : Statement.run s (first :: rest) = Statement.run s' rest := by
  rw [Statement.run, h]

theorem run_singleton_of_done {s : Scope} {first : Statement} {built : Built}
    (h : first.step s = some (.done built)) : Statement.run s [first] = some built := by
  rw [Statement.run, h]

/-- The code in a scope that hides nothing of the module, by the outcome of its test. -/
theorem run_builderBody {s : Scope} {b : Bool} (kind : String) (args : List Value)
    (harguments : lookupEntry "arguments" s.names = some (.value (.list args)))
    (ht : lookupEntry "t" s.names = none)
    (hcurrent : lookupEntry "getCurrentLocation" s.names = none)
    (htest : Holds ((s.withName "args" (.value (.list args))).withName "loc"
      (.ofOption args.getLast?)) locationTest b) :
    Statement.run s (builderBody kind) = some
      { function := kind
        passed := if b then args.dropLast else args
        location := if b then .ofOption args.getLast? else .value s.currentLocation } := by
  obtain ⟨r, hr, hpasses⟩ := htest
  -- The scopes after the first four statements.
  let collected := s.withName "args" (.value (.list args))
  let located := collected.withName "loc" (.ofOption args.getLast?)
  let tested := located.withName "hasLoc" r
  let popped := if b then tested.withName "args" (.value (.list args.dropLast)) else tested
  have hcollect : (Statement.collect "args").step s = some (.goOn collected) := by
    simp [Statement.step, Scope.items?, harguments, collected]
  have hlocate : (Statement.declare "let" "loc" (.last "args")).step collected =
      some (.goOn located) := by
    simp [Statement.step, Expression.eval, Scope.items?, collected, located]
  have htested : (Statement.declare "const" "hasLoc" (.group locationTest)).step located =
      some (.goOn tested) := by
    simp [Statement.step, Expression.eval, hr, collected, located, tested]
  have hpop : (Statement.onlyIf (.name "hasLoc") (.pop "args")).step tested =
      some (.goOn popped) := by
    cases b <;>
      simp [Statement.step, Expression.eval, Scope.items?, hpasses, collected, located, tested,
        popped]
  rw [builderBody, run_cons_of_goOn hcollect, run_cons_of_goOn hlocate, run_cons_of_goOn htested,
    run_cons_of_goOn hpop]
  refine run_singleton_of_done ?_
  cases b <;>
    simp [Statement.step, Expression.eval, Scope.items?, Scope.hides, hpasses, ht, hcurrent,
      collected, located, tested, popped]

section

variable {parameters : List String}

/-- The body of a builder may stand behind such parameters. -/
theorem Clear.mayFollow (h : Clear parameters) (kind : String) :
    mayFollow parameters (builderBody kind) = true := by
  have hnot := h.disjoint
  simp only [ownNames, List.forall_mem_cons] at hnot
  simp [Code.mayFollow, builderBody, Statement.declared, h.nodup, hnot]

/-- A name that no parameter has is not bound by the parameters. -/
theorem lookupEntry_bindings (args : List Value) {n : String} (h : n ∉ parameters) :
    lookupEntry n (bindings parameters args) = none := by
  have hkeys : (bindings parameters args).map Prod.fst = parameters := by
    rw [bindings, List.map_map]
    exact List.zipIdx_map_fst 0 parameters
  rw [← Option.not_isSome_iff_eq_none, lookupEntry_isSome, hkeys]
  exact h

/-- **The code of a builder.** Whatever the arguments are, the code does not fail: it calls the
function for the kind with all arguments but a location at the end, and gives the node this location
or else the current one. -/
theorem runBuilder_eq (h : Clear parameters) (kind : String) (args : List Value) (current : Value) :
    runBuilder parameters kind args current = some
      { function := kind
        passed := if (takenLocation? args).isSome then args.dropLast else args
        location := .value ((takenLocation? args).getD current) } := by
  have hfree : ∀ n ∈ ownNames, lookupEntry n (bindings parameters args) = none := fun n hn =>
    lookupEntry_bindings args (h.disjoint n hn)
  have hrun := fun b => run_builderBody (b := b)
    (s := ⟨("arguments", .value (.list args)) :: bindings parameters args, current⟩) kind args rfl
    (hfree "t" (by decide)) (hfree "getCurrentLocation" (by decide))
  rw [runBuilder, h.mayFollow, if_pos rfl]
  rcases List.eq_nil_or_concat args with rfl | ⟨front, last, rfl⟩
  · refine (hrun false ⟨.undefined, ?_, rfl⟩).trans rfl
    simp [locationTest, Expression.eval, Result.ofOption, Result.passes]
  · rw [List.concat_eq_append] at hrun ⊢
    have hlast : (front ++ [last]).getLast? = some last := by simp
    rw [hlast] at hrun
    rw [hrun last.isTaken (holds_locationTest ?_), takenLocation?_concat]
    · cases last.isTaken <;> simp [Result.ofOption]
    · simp [Result.ofOption]

end

end Code

/-! ## 4. Where module and builders agree -/

namespace Value

/-- An argument that the module takes for a location and the builders do not: an object with null, a
list or an object for both ends, but not with objects for both. -/
def IsHalfLocation (v : Value) : Prop :=
  ∃ start stop, v.member? "start" = some start ∧ v.member? "end" = some stop ∧
    start.countsAsObject = true ∧ stop.countsAsObject = true ∧
    ¬ (start.isObject = true ∧ stop.isObject = true)

theorem hasEnds_eq_true_iff {ok : Value → Bool} {v : Value} :
    v.hasEnds ok = true ↔ ∃ start stop, v.member? "start" = some start ∧
      v.member? "end" = some stop ∧ ok start = true ∧ ok stop = true := by
  simp only [hasEnds, Bool.and_eq_true, Option.any_eq_true]
  constructor
  · intro h
    obtain ⟨⟨start, hstart, hs⟩, stop, hstop, ht⟩ := h
    exact ⟨start, stop, hstart, hstop, hs, ht⟩
  · intro h
    obtain ⟨start, stop, hstart, hstop, hs, ht⟩ := h
    exact ⟨⟨start, hstart, hs⟩, stop, hstop, ht⟩

theorem isLocation_eq (v : Value) : v.isLocation = v.hasEnds isObject := rfl

/-- Objects count as objects. The converse fails for null and for lists. -/
theorem countsAsObject_of_isObject {v : Value} (h : v.isObject = true) :
    v.countsAsObject = true := by
  cases v with
  | object members => rfl
  | _ => cases h

/-- The module takes every location for one. -/
theorem isTaken_of_isLocation {v : Value} (h : v.isLocation = true) : v.isTaken = true := by
  rw [isLocation_eq] at h
  obtain ⟨start, stop, hstart, hstop, hs, ht⟩ := hasEnds_eq_true_iff.mp h
  exact hasEnds_eq_true_iff.mpr ⟨start, stop, hstart, hstop, countsAsObject_of_isObject hs,
    countsAsObject_of_isObject ht⟩

/-- Half a location is what the module takes for one and the builders do not. -/
theorem isHalfLocation_iff {v : Value} :
    v.IsHalfLocation ↔ v.isTaken = true ∧ v.isLocation = false := by
  rw [isTaken, hasEnds_eq_true_iff, ← Bool.not_eq_true, isLocation_eq, hasEnds_eq_true_iff]
  constructor
  · intro h
    obtain ⟨start, stop, hstart, hstop, hs, ht, hboth⟩ := h
    refine ⟨⟨start, stop, hstart, hstop, hs, ht⟩, fun hlocation => ?_⟩
    obtain ⟨start', stop', hstart', hstop', hobjects⟩ := hlocation
    cases hstart.symm.trans hstart'
    cases hstop.symm.trans hstop'
    exact hboth hobjects
  · intro h
    obtain ⟨⟨start, stop, hstart, hstop, hs, ht⟩, hno⟩ := h
    exact ⟨start, stop, hstart, hstop, hs, ht, fun hboth => hno ⟨start, stop, hstart, hstop, hboth⟩⟩

end Value

namespace Builders

open Code

/-- The last argument is taken for a location by both or by none, unless it is half a location. -/
theorem takenLocation?_eq_givenLocation? {args : List Value}
    (h : ∀ last, args.getLast? = some last → ¬ last.IsHalfLocation) :
    takenLocation? args = givenLocation? args := by
  unfold takenLocation? givenLocation?
  cases hlast : args.getLast? with
  | none => rfl
  | some last =>
    have hsame : last.isTaken = last.isLocation := by
      cases hlocation : last.isLocation with
      | true => exact Value.isTaken_of_isLocation hlocation
      | false =>
        refine Bool.eq_false_iff.mpr fun htaken => ?_
        exact h last hlast (Value.isHalfLocation_iff.mpr ⟨htaken, hlocation⟩)
    simp only [Option.filter, hsame]

/-- Half a location at the end is kept by the module and passed on by the builders. -/
theorem passedArgs_of_isHalfLocation {args : List Value} {last : Value}
    (hlast : args.getLast? = some last) (h : last.IsHalfLocation) :
    (takenLocation? args).isSome = true ∧ passedArgs .build args = args ∧
      args.dropLast ≠ args := by
  obtain ⟨htaken, hlocation⟩ := Value.isHalfLocation_iff.mp h
  have hgiven : givenLocation? args = none := by
    simp [givenLocation?, hlast, Option.filter, hlocation]
  refine ⟨by simp [takenLocation?, hlast, Option.filter, htaken], by simp [passedArgs, hgiven], ?_⟩
  intro hsame
  have hlength := congrArg List.length hsame
  have hne : args ≠ [] := by
    intro hnil
    subst hnil
    cases hlast
  have hpos := List.length_pos_iff.mpr hne
  rw [List.length_dropLast] at hlength
  omega

/-- **Builders and module agree on arguments.** In the wrapper module every kind has one builder,
whose lines are its signature and its body. Where no parameter has a name that the body needs for
itself, the body does not fail, whatever the arguments and the current location are. The operation
that builds nodes calls the same function with the same arguments, and gives the node the same
location, exactly if the last argument is not half a location: an object with null, a list or an
object for `start` and for `end`, but not with objects for both. -/
theorem build_agrees_with_module (t : TypeResolver) (c : Config) (before : Findings) :
    ∃ w after, (Wrapper.ofRegistry t c).run.run before = (.ok w, after) ∧
      ∀ kind ∈ t.registry.kindNames,
        (∃ s, w.signaturesOf kind = [s] ∧ s.kind = kind ∧
          ["  " ++ s.text ++ " \x7b"] ++ (builderBody kind).flatMap (Statement.lines "    ") ++
            ["  \x7d,"] <:+: w.lines) ∧
        ∀ parameters, Clear parameters → ∀ args location, ∃ passed given,
          runBuilder parameters kind args location = some ⟨kind, passed, .value given⟩ ∧
          ∀ (d : Delegate) (f : Function), d.function? kind = some f →
            (callOperation ⟨t.registry, some d, location⟩ .build (.str kind) args =
                ⟨[⟨kind, passed⟩], nodeAt given (f passed)⟩ ↔
              ∀ last, args.getLast? = some last → ¬ last.IsHalfLocation) := by
  refine ⟨Wrapper.expected t c, _, Wrapper.ofRegistry_gives c before, fun kind hkind => ⟨?_, ?_⟩⟩
  · rw [← t.registry.map_name_sorted] at hkind
    obtain ⟨k, hk, rfl⟩ := List.mem_map.mp hkind
    refine ⟨_, Wrapper.signaturesOf_expected t c hk, rfl, ?_⟩
    have hlines := Member.lines_builder (Signature.expected t c k)
    have hinfix := Wrapper.infix_lines_of_mem (Wrapper.builder_mem_expected t c hk)
    rwa [hlines] at hinfix
  · intro parameters hclear args location
    refine ⟨_, _, runBuilder_eq hclear kind args location, fun d f hf => ?_⟩
    have hcontains : t.registry.contains kind = true :=
      Registry.contains_iff.mpr (Registry.mem_kindNames.mp hkind)
    have hbuild : callOperation ⟨t.registry, some d, location⟩ .build (.str kind) args =
        ⟨[⟨kind, passedArgs .build args⟩],
          nodeAt ((givenLocation? args).getD location) (f (passedArgs .build args))⟩ :=
      callOperation_build hcontains rfl hf
    rw [hbuild]
    constructor
    · intro hsame last hlast hhalf
      obtain ⟨htaken, hpassed, hne⟩ := passedArgs_of_isHalfLocation hlast hhalf
      simp only [htaken, hpassed, if_true, Outcome.mk.injEq, List.cons.injEq, Call.mk.injEq]
        at hsame
      exact hne hsame.1.1.2.symm
    · intro hnone
      rw [takenLocation?_eq_givenLocation? hnone]
      rfl

-- A parameter with one of these names leaves the body without the delegate, say, or the module
-- without sense.
example : runBuilder ["t"] "Identifier" [.null] .null = none ∧
    runBuilder ["loc"] "Identifier" [.null] .null = none := ⟨rfl, rfl⟩

/-- Builders of nodes of one kind, with a delegate that builds them. -/
def single : Builders :=
  ⟨.single, some (Script.delegate ⟨["Identifier"], []⟩ 0), .null⟩

/-- Behind an argument for the parameter `name`, an object with objects for both ends is kept for
the node by the module and by the operation. -/
theorem ends_are_kept_by_both :
    ∃ name ends, name = Value.str "x" ∧
      ends = Value.object [("start", .object []), ("end", .object [])] ∧
      Clear ["name"] ∧ ¬ ends.IsHalfLocation ∧
      runBuilder ["name"] "Identifier" [name, ends] .null =
        some ⟨"Identifier", [name], .value ends⟩ ∧
      single.callOperation .build (.str "Identifier") [name, ends] =
        ⟨[⟨"Identifier", [name]⟩], .ok (.ofValue (.object
          [("type", .str "Identifier"), ("args", .list [name]), ("loc", ends)]))⟩ := by
  let name := Value.str "x"
  let ends := Value.object [("start", .object []), ("end", .object [])]
  have hclear : Clear ["name"] := ⟨by decide, by decide⟩
  have hends : ¬ ends.IsHalfLocation := fun h => by
    obtain ⟨-, hlocation⟩ := Value.isHalfLocation_iff.mp h
    cases hlocation
  obtain ⟨w, after, -, hkinds⟩ :=
    build_agrees_with_module (Generation.resolver .single {}) {} .none
  obtain ⟨-, hbody⟩ := hkinds "Identifier" (by decide)
  obtain ⟨passed, given, hrun, hcall⟩ := hbody ["name"] hclear [name, ends] .null
  have hbuilt : runBuilder ["name"] "Identifier" [name, ends] .null =
      some ⟨"Identifier", [name], .value ends⟩ := rfl
  cases hbuilt.symm.trans hrun
  refine ⟨name, ends, rfl, rfl, hclear, hends, hbuilt, ?_⟩
  refine (hcall (Script.delegate ⟨["Identifier"], []⟩ 0) _ rfl).mpr ?_
  rintro last hlast hhalf
  cases hlast
  exact hends hhalf

/-- An argument with null for both ends is kept by the module, which gives it to the node as its
location; the operation passes it on and gives the node the current location. -/
theorem null_ends_part_ways :
    ∃ ends, ends = Value.object [("start", .null), ("end", .null)] ∧
      runBuilder [] "Identifier" [ends] .null = some ⟨"Identifier", [], .value ends⟩ ∧
      single.callOperation .build (.str "Identifier") [ends] =
        ⟨[⟨"Identifier", [ends]⟩], .ok (.ofValue (.object
          [("type", .str "Identifier"), ("args", .list [ends]), ("loc", .null)]))⟩ ∧
      single.callOperation .build (.str "Identifier") [ends] ≠
        ⟨[⟨"Identifier", []⟩], .ok (.ofValue (.object
          [("type", .str "Identifier"), ("args", .list []), ("loc", ends)]))⟩ := by
  refine ⟨_, rfl, rfl, rfl, ?_⟩
  intro h
  have hcalls := congrArg (fun o => o.calls.map (·.args.length)) h
  exact absurd hcalls (by decide)

end Builders

end NodeSchema
