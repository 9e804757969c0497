import NodeSchema.Builders.Delegate
import NodeSchema.Location
import NodeSchema.Wrapper
/-!
# Builders

The functions of the wrapper module, to be called directly. A `Builders` holds a delegate and a
current location of its own. For every node kind of its registry it has the four functions under the
names that they have in the module; these take precedence over its own attributes, save that a name
with an underscore in front is never that of a function.

The operations behind the functions are attributes themselves, and what they need of the builders
they look up under a name, as is done from outside. Where a kind has a function with the name, they
find this function and nothing that is of use to them.
-/

namespace NodeSchema

structure Builders where
  registry : Registry
  delegate : Option Builders.Delegate
  -- The location of nodes that are built without one; null if there is none.
  location : Value

namespace Builders

inductive Error where
  | unknownKind (kind : Value)
  -- The value cannot be the name of a kind.
  | badKind
  | noDelegate
  | noFunction (message : String)
  | raised (error : Raised)
  | notNode
  | unknownAttribute (name : String)
  -- The attribute cannot be used like this: it is no function, or not one of so many arguments.
  | badCall
  | noBuilders
  deriving Inhabited

def Error.message : Error → String
  | .unknownKind kind => "Unknown node kind: " ++ kind.inline
  | .badKind => "The name of a kind is a text"
  | .noDelegate => "No node-construction delegate installed; call set_delegate first"
  | .noFunction message => message
  | .raised error => error.message
  | .notNode => "The reply of the delegate is no node"
  | .unknownAttribute name => "'NodeBuilders' object has no attribute '" ++ name ++ "'"
  | .badCall => "The attribute cannot be called in this way"
  | .noBuilders => "There are no builders with this number"

/-- A call of a function of the delegate. -/
structure Call where
  name : String
  args : List Value

/-- The calls that an operation makes, and how it ends. -/
structure Outcome (α : Type) where
  calls : List Call
  result : Except Error α

/-- After an operation that succeeds another one can follow, which adds its calls. -/
instance : Monad Outcome where
  pure a := ⟨[], .ok a⟩
  bind o f :=
    match o.result with
    | .ok a =>
      let next := f a
      ⟨o.calls ++ next.calls, next.result⟩
    | .error e => ⟨o.calls, .error e⟩

instance : MonadLift (Except Error) Outcome := ⟨fun result => ⟨[], result⟩⟩

@[simp] theorem Outcome.ok_bind {α β : Type} (a : α) (f : α → Outcome β) :
    ((liftM (Except.ok a : Except Error α) : Outcome α) >>= f) = f a := rfl

@[simp] theorem Outcome.error_bind {α β : Type} (e : Error) (f : α → Outcome β) :
    ((liftM (Except.error e : Except Error α) : Outcome α) >>= f) = ⟨[], .error e⟩ := rfl

/-! ## 1. Attributes -/

inductive Attribute where
  -- The function for a kind: an operation that has its kind already.
  | bound (family : Family) (kind : String)
  | operation (family : Family)
  | getDelegate
  | setDelegate
  | setLocation
  -- How operations find a function of the delegate, and what they pass on to it.
  | functionLookup
  | argumentChoice
  | registry
  | delegate
  | location
  | dispatch
  | inherited (name : String)
  deriving DecidableEq, Repr

def operationName : Family → String
  | .build => "build"
  | .test => "is_kind"
  | .require => "assert_kind"
  | .cast => "as_kind"

/-- The methods that all builders share. -/
def methods : List (String × Attribute) :=
  Family.all.map (fun f => (operationName f, .operation f)) ++
    [("get_delegate", .getDelegate), ("set_delegate", .setDelegate),
     ("set_current_location", .setLocation), ("_delegate_fn", .functionLookup),
     ("_forward_args", .argumentChoice)]

def dataAttributes : List (String × Attribute) :=
  [("registry", .registry), ("delegate", .delegate), ("current_location", .location),
   ("_registry", .registry), ("_delegate", .delegate), ("_current_location", .location),
   ("_dispatch", .dispatch)]

/-- The attributes that an object has whatever it is. -/
def inheritedNames : List String :=
  ["__class__", "__delattr__", "__dict__", "__dir__", "__doc__", "__eq__", "__format__", "__ge__",
   "__getattribute__", "__getstate__", "__gt__", "__hash__", "__init__", "__init_subclass__",
   "__le__", "__lt__", "__module__", "__ne__", "__new__", "__reduce__", "__reduce_ex__",
   "__repr__", "__setattr__", "__sizeof__", "__str__", "__subclasshook__", "__weakref__"]

/-- The attributes that do not depend on the registry. -/
def ownAttributes : List (String × Attribute) :=
  methods ++ dataAttributes ++ inheritedNames.map fun name => (name, .inherited name)

/-- What an attribute is that is not that of a function for a kind. -/
def ownAttribute (name : String) : Except Error Attribute :=
  match lookupEntry name ownAttributes with
  | some a => .ok a
  | none => .error (.unknownAttribute name)

/-- A method by its name, whatever the builders are that it is meant for. -/
def method (name : String) : Except Error Attribute :=
  match lookupEntry name methods with
  | some a => .ok a
  | none => .error (.unknownAttribute name)

/-- Among the methods, the name of an operation is that of this operation, whatever kinds there
are. -/
theorem method_operationName (family : Family) :
    method (operationName family) = .ok (.operation family) := by
  cases family <;> rfl

def functionsOf (kind : String) : List (String × Family × String) :=
  Family.all.map fun f => (f.functionName kind, f, kind)

/-- The functions for all kinds under their names; of two with one name the later counts. -/
def dispatch (r : Registry) : Table String (Family × String) :=
  .ofList (r.kindNames.flatMap functionsOf)

def isPrivate (name : String) : Bool := name.toList.head? == some '_'

def Attribute.forKind (kind : String) : Attribute → Except Error Attribute
  | .operation family => .ok (.bound family kind)
  | _ => .error .badCall

def lookup (b : Builders) (name : String) : Except Error Attribute :=
  match if isPrivate name then none else (dispatch b.registry).get? name with
  | some (family, kind) => method (operationName family) >>= Attribute.forKind kind
  | none => ownAttribute name

/-- A name with an underscore in front is looked up among the own attributes, whatever kinds there
are. -/
theorem lookup_of_isPrivate {b : Builders} {name : String} (h : isPrivate name = true) :
    b.lookup name = ownAttribute name := by
  unfold lookup
  rw [h]
  rfl

/-! ## 2. What operations find -/

section

variable {α : Type}

/-- What an attribute serves for, once it has been found; another one serves for nothing. -/
def serve (use? : Attribute → Option α) (found : Except Error Attribute) : Except Error α := do
  match use? (← found) with
  | some a => .ok a
  | none => .error .badCall

/-- What an operation finds under a name. -/
def under (b : Builders) (name : String) (use? : Attribute → Option α) : Except Error α :=
  serve use? (b.lookup name)

/-- Under a name with an underscore in front an operation finds what the builders have of their
own. -/
theorem under_of_isPrivate {b : Builders} {name : String} {use? : Attribute → Option α}
    {a : Attribute} {x : α} (hname : isPrivate name = true) (hown : ownAttribute name = .ok a)
    (huse : use? a = some x) : b.under name use? = .ok x := by
  have hfound : b.lookup name = .ok a := (lookup_of_isPrivate hname).trans hown
  simp [under, serve, hfound, huse, bind, Except.bind]

end

def heldRegistry? (b : Builders) : Attribute → Option Registry
  | .registry => some b.registry
  | _ => none

def heldDelegate? (b : Builders) : Attribute → Option (Option Delegate)
  | .delegate => some b.delegate
  | _ => none

def heldLocation? (b : Builders) : Attribute → Option Value
  | .location => some b.location
  | _ => none

/-! ## 3. Operations -/

def kindOf (r : Registry) : Value → Except Error String
  | .str kind => if r.contains kind then .ok kind else .error (.unknownKind (.str kind))
  | .list _ => .error .badKind
  | .object _ => .error .badKind
  | v => .error (.unknownKind v)

/-- The function of the delegate for a kind, with its name: that of the kind with something in
front. -/
def functionFor (b : Builders) (kind : Value) (front : String) :
    Except Error (String × Function) := do
  let registry ← b.under "_registry" b.heldRegistry?
  let kind ← kindOf registry kind
  match ← b.under "_delegate" b.heldDelegate? with
  | none => .error .noDelegate
  | some d =>
    match d.function? (front ++ kind) with
    | some f => .ok (front ++ kind, f)
    | none => .error (.noFunction (d.missing (front ++ kind)))

def findsFunctions? (b : Builders) :
    Attribute → Option (Value → String → Except Error (String × Function))
  | .functionLookup => some b.functionFor
  | _ => none

/-- Options are passed on if they are not null. -/
def forwardedArgs (value options : Value) : List Value :=
  if options.isNull then [value] else [value, options]

def choosesArgs? : Attribute → Option (Value → Value → List Value)
  | .argumentChoice => some forwardedArgs
  | _ => none

def callFunction (name : String) (f : Function) (args : List Value) : Outcome Reply :=
  ⟨[⟨name, args⟩], (f args).mapError .raised⟩

/-- What a function of the delegate says about a value. -/
def ask (b : Builders) (front : String) (kind value options : Value) : Outcome Reply := do
  let find ← b.under "_delegate_fn" b.findsFunctions?
  let (name, f) ← find kind front
  let choose ← b.under "_forward_args" choosesArgs?
  callFunction name f (choose value options)

def test (b : Builders) (kind value options : Value) : Outcome Reply := do
  let reply ← b.ask "is" kind value options
  return .value (.bool reply.truthy)

def require (b : Builders) (kind value options : Value) : Outcome Reply :=
  b.ask "assert" kind value options

def tests? (b : Builders) : Attribute → Option (Value → Value → Value → Outcome Reply)
  | .operation .test => some b.test
  | _ => none

/-- The value, if it passes the test. The test is looked for among the methods, since the builders
may have the function of a kind under its name. -/
def cast (b : Builders) (kind value options : Value) : Outcome Reply := do
  let test ← serve b.tests? (method "is_kind")
  let reply ← test kind value options
  return .value (if reply.truthy then value else .null)

/-- The last argument, if it is shaped like a location. -/
def givenLocation? (args : List Value) : Option Value := args.getLast?.filter Value.isLocation

/-- What a builder passes on of its arguments, and the location of the node: a location at the end
of the arguments, which is not passed on, or else the current one. -/
def argsAndLocation (b : Builders) (args : List Value) : Except Error (List Value × Value) :=
  match givenLocation? args with
  | some location => .ok (args.dropLast, location)
  | none => do
    let location ← b.under "_current_location" b.heldLocation?
    return (args, location)

/-- A reply as a node with a location, which takes the place of any other that the reply has. -/
def nodeOf (location : Value) (reply : Reply) : Except Error Reply :=
  match reply.fields? with
  | some fields => .ok (.value (.object (insertEntry "loc" location fields)))
  | none => .error .notNode

def build (b : Builders) (kind : Value) (args : List Value) : Outcome Reply := do
  let find ← b.under "_delegate_fn" b.findsFunctions?
  let (name, f) ← find kind ""
  let (passed, location) ← b.argsAndLocation args
  let reply ← callFunction name f passed
  nodeOf location reply

def operate (b : Builders) (family : Family) (kind : Value) (args : List Value) : Outcome Reply :=
  let value := args.headD .null
  let options := (args[1]?).getD .null
  match family with
  | .build => b.build kind args
  | .test => b.test kind value options
  | .require => b.require kind value options
  | .cast => b.cast kind value options

end Builders

end NodeSchema
