import NodeSchema.Builders.Session
/-!
# What the operations come to

The operations look up what they need, each time under a name with an underscore in front. Such a
name leads to an own attribute whatever kinds there are, and so an operation can be read off what
the builders hold: which function of the delegate it calls, with which arguments, and what it makes
of the reply. The cast is not put together like this. It finds the test among the methods, and its
outcome is read off that of the test.

* `under_of_isPrivate` — what is found under a name with an underscore in front.
* `operate_of_error`, `operate_of_ok` — the operations of all families at once.
* `callOperation_of_*` — the cases of a call, from the first thing that can be missing on.
-/

namespace NodeSchema.Builders

/-! ## 1. What is found -/

section

variable (b : Builders)

/-- Under names with an underscore in front an operation finds what it needs, whatever kinds there
are: the registry, say. -/
@[simp] theorem under_registry : b.under "_registry" b.heldRegistry? = .ok b.registry :=
  under_of_isPrivate (a := .registry) (by decide) rfl rfl

@[simp] theorem under_delegate : b.under "_delegate" b.heldDelegate? = .ok b.delegate :=
  under_of_isPrivate (a := .delegate) (by decide) rfl rfl

@[simp] theorem under_location : b.under "_current_location" b.heldLocation? = .ok b.location :=
  under_of_isPrivate (a := .location) (by decide) rfl rfl

@[simp] theorem under_functionLookup :
    b.under "_delegate_fn" b.findsFunctions? = .ok b.functionFor :=
  under_of_isPrivate (a := .functionLookup) (by decide) rfl rfl

@[simp] theorem under_argumentChoice : b.under "_forward_args" choosesArgs? = .ok forwardedArgs :=
  under_of_isPrivate (a := .argumentChoice) (by decide) rfl rfl

/-- Among the methods the cast finds the test. -/
@[simp] theorem serve_tests : serve b.tests? (method "is_kind") = .ok b.test := by
  rw [show method "is_kind" = .ok (.operation .test) from method_operationName .test]
  rfl

end

/-! ## 2. The call of an operation -/

def delegateName : Family → String → String
  | .build, kind => kind
  | .test, kind => "is" ++ kind
  | .require, kind => "assert" ++ kind
  | .cast, kind => "is" ++ kind

/-- What a family puts in front of the name of a kind. -/
def front : Family → String
  | .build => ""
  | .test => "is"
  | .require => "assert"
  | .cast => "is"

theorem front_append (family : Family) (kind : String) :
    front family ++ kind = delegateName family kind := by
  cases family <;> simp [front, delegateName]

def delegateFunction (b : Builders) (family : Family) (kind : Value) :
    Except Error (String × Function) := b.functionFor kind (front family)

/-- The arguments that are passed on. A builder keeps a location at the end to itself; the others
pass options only if they are not null. -/
def passedArgs : Family → List Value → List Value
  | .build, args => if (givenLocation? args).isSome then args.dropLast else args
  | _, args => args.take 1 ++ (args.drop 1).filter (!·.isNull)

def finish (b : Builders) (family : Family) (args : List Value) (reply : Reply) :
    Except Error Reply :=
  match family with
  | .build => nodeOf ((givenLocation? args).getD b.location) reply
  | .test => .ok (.value (.bool reply.truthy))
  | .require => .ok reply
  | .cast => .ok (.value (if reply.truthy then args.headD .null else .null))

def conclude (b : Builders) (family : Family) (args : List Value) :
    Except Raised Reply → Except Error Reply
  | .error e => .error (.raised e)
  | .ok reply => b.finish family args reply

section

variable {b : Builders} {family : Family} {kind : Value} {args : List Value}

/-- What an operation on a value passes on, said by value and options. -/
theorem passedArgs_eq_forwardedArgs (hfamily : family ≠ .build)
    (h : accepts family args.length = true) :
    passedArgs family args = forwardedArgs (args.headD .null) ((args[1]?).getD .null) := by
  have hpassed : passedArgs family args = args.take 1 ++ (args.drop 1).filter (!·.isNull) := by
    cases family with
    | build => exact absurd rfl hfamily
    | _ => rfl
  have hlength : 1 ≤ args.length ∧ args.length ≤ 2 := by
    cases family with
    | build => exact absurd rfl hfamily
    | _ => simpa [accepts] using h
  rw [hpassed]
  match args, hlength with
  | [value], _ => rfl
  | [value, options], _ => cases ho : options.isNull <;> simp [forwardedArgs, ho]
  | [], hlength => simp at hlength
  | _ :: _ :: _ :: _, hlength => simp at hlength

variable {name : String} {f : Function} {e : Error} {value options : Value}

theorem ask_of_error {front : String} (h : b.functionFor kind front = .error e) :
    b.ask front kind value options = ⟨[], .error e⟩ := by
  simp [ask, h]

theorem ask_of_ok {front : String} (h : b.functionFor kind front = .ok (name, f)) :
    b.ask front kind value options = callFunction name f (forwardedArgs value options) := by
  simp [ask, h]

theorem test_of_error (h : b.functionFor kind "is" = .error e) :
    b.test kind value options = ⟨[], .error e⟩ := by
  rw [test, ask_of_error h]
  rfl

/-- The test calls the function that it finds and makes a truth value of the reply. -/
theorem test_of_ok (h : b.functionFor kind "is" = .ok (name, f)) :
    b.test kind value options =
      ⟨[⟨name, forwardedArgs value options⟩],
        b.conclude .test [value, options] (f (forwardedArgs value options))⟩ := by
  rw [test, ask_of_ok h, callFunction]
  cases f (forwardedArgs value options) <;> rfl

/-- The choice between a given location and the current one does not fail. -/
theorem argsAndLocation_eq (b : Builders) (args : List Value) :
    b.argsAndLocation args =
      .ok (passedArgs .build args, (givenLocation? args).getD b.location) := by
  cases hgiven : givenLocation? args with
  | some location => simp [argsAndLocation, passedArgs, hgiven]
  | none =>
    simp only [argsAndLocation, passedArgs, hgiven, under_location]
    rfl

/-- The cast makes its result of that of the test. -/
theorem cast_eq (b : Builders) (kind value options : Value) :
    b.cast kind value options = do
      let reply ← b.test kind value options
      return .value (if reply.truthy then value else .null) := by
  simp [cast]

/-- An operation that finds no function fails without a call. -/
theorem operate_of_error (h : b.delegateFunction family kind = .error e) :
    b.operate family kind args = ⟨[], .error e⟩ := by
  cases family with
  | build =>
    have hf : b.functionFor kind "" = .error e := h
    simp [operate, build, hf]
  | test => exact test_of_error h
  | require => exact ask_of_error h
  | cast =>
    have htest : b.test kind (args.headD .null) ((args[1]?).getD .null) = ⟨[], .error e⟩ :=
      test_of_error h
    simp only [operate, cast_eq, htest]
    rfl

/-- An operation that finds its function calls it once, with the arguments that are passed on, and
makes its result of the reply. -/
theorem operate_of_ok (hargs : accepts family args.length = true)
    (h : b.delegateFunction family kind = .ok (name, f)) :
    b.operate family kind args =
      ⟨[⟨name, passedArgs family args⟩], b.conclude family args (f (passedArgs family args))⟩ := by
  cases family with
  | build =>
    have hf : b.functionFor kind "" = .ok (name, f) := h
    simp only [operate, build, under_functionLookup, hf, argsAndLocation_eq, Outcome.ok_bind,
      callFunction]
    cases f (passedArgs .build args) <;> rfl
  | test =>
    rw [passedArgs_eq_forwardedArgs (by decide) hargs]
    exact test_of_ok h
  | require =>
    have hask : b.operate .require kind args = callFunction name f _ := ask_of_ok h
    rw [passedArgs_eq_forwardedArgs (by decide) hargs, hask, callFunction]
    cases f (forwardedArgs (args.headD .null) ((args[1]?).getD .null)) <;> rfl
  | cast =>
    rw [passedArgs_eq_forwardedArgs (by decide) hargs]
    have htest : b.test kind (args.headD .null) ((args[1]?).getD .null) = _ := test_of_ok h
    simp only [operate, cast_eq, htest]
    cases f (forwardedArgs (args.headD .null) ((args[1]?).getD .null)) <;> rfl

end

/-! ## 3. Calls -/

section

variable {b : Builders} {family : Family} {kind : String} {args : List Value}

/-- What building a node gives for the reply of the delegate: its fields, and the location under
`loc`, in the place of any other that the reply has there. -/
def nodeAt (location : Value) : Except Raised Reply → Except Error Answer
  | .error e => .error (.raised e)
  | .ok reply =>
    match reply.fields? with
    | some fields => .ok (.ofValue (.object (insertEntry "loc" location fields)))
    | none => .error .notNode

theorem callOperation_of_error {e : Error} (hargs : accepts family args.length = true)
    (h : b.delegateFunction family (.str kind) = .error e) :
    b.callOperation family (.str kind) args = ⟨[], .error e⟩ := by
  simp [callOperation, hargs, operate_of_error h, Except.map]

/-- An operation that finds its function calls it once. -/
theorem callOperation_of_ok {name : String} {f : Function}
    (hargs : accepts family args.length = true)
    (h : b.delegateFunction family (.str kind) = .ok (name, f)) :
    b.callOperation family (.str kind) args =
      ⟨[⟨name, passedArgs family args⟩],
        (b.conclude family args (f (passedArgs family args))).map .reply⟩ := by
  simp [callOperation, hargs, operate_of_ok hargs h]

/-- A function of the delegate is looked for in three steps, any of which can fail. -/
theorem delegateFunction_str (b : Builders) (family : Family) (kind : String) :
    b.delegateFunction family (.str kind) =
      if b.registry.contains kind then
        match b.delegate with
        | none => .error .noDelegate
        | some d =>
          match d.function? (delegateName family kind) with
          | some f => .ok (delegateName family kind, f)
          | none => .error (.noFunction (d.missing (delegateName family kind)))
      else .error (.unknownKind (.str kind)) := by
  simp only [delegateFunction, functionFor, under_registry, under_delegate, front_append, kindOf,
    bind, Except.bind]
  cases b.registry.contains kind <;> rfl

/-- The delegate is asked for second. -/
theorem callOperation_of_noDelegate (hargs : accepts family args.length = true)
    (hkind : b.registry.contains kind = true) (hdelegate : b.delegate = none) :
    b.callOperation family (.str kind) args = ⟨[], .error .noDelegate⟩ :=
  callOperation_of_error hargs
    (by simp [delegateFunction_str, hkind, hdelegate])

variable {d : Delegate}

/-- The function is asked for last, and the delegate says that it is missing. -/
theorem callOperation_of_noFunction (hargs : accepts family args.length = true)
    (hkind : b.registry.contains kind = true) (hdelegate : b.delegate = some d)
    (hnone : d.function? (delegateName family kind) = none) :
    b.callOperation family (.str kind) args =
      ⟨[], .error (.noFunction (d.missing (delegateName family kind)))⟩ :=
  callOperation_of_error hargs
    (by simp [delegateFunction_str, hkind, hdelegate, hnone])

variable {f : Function}

/-- Where nothing is missing, an operation makes one call, and its answer comes from the reply. -/
theorem callOperation_of_function (hargs : accepts family args.length = true)
    (hkind : b.registry.contains kind = true) (hdelegate : b.delegate = some d)
    (hf : d.function? (delegateName family kind) = some f) :
    b.callOperation family (.str kind) args =
      ⟨[⟨delegateName family kind, passedArgs family args⟩],
        (b.conclude family args (f (passedArgs family args))).map .reply⟩ :=
  callOperation_of_ok hargs
    (by simp [delegateFunction_str, hkind, hdelegate, hf])

/-- Building passes on the arguments that are not the location, and puts the location, or else the
current one, into the reply. -/
theorem callOperation_build (hkind : b.registry.contains kind = true)
    (hdelegate : b.delegate = some d) (hf : d.function? kind = some f) :
    b.callOperation .build (.str kind) args =
      ⟨[⟨kind, passedArgs .build args⟩],
        nodeAt ((givenLocation? args).getD b.location) (f (passedArgs .build args))⟩ := by
  have hargs : accepts .build args.length = true := rfl
  rw [callOperation_of_function hargs hkind hdelegate hf]
  cases f (passedArgs .build args) with
  | error e => rfl
  | ok reply =>
    simp only [conclude, finish, nodeOf, nodeAt]
    cases reply.fields? <;> rfl

end

end NodeSchema.Builders
