import NodeSchema.Value.Basic
/-!
# The code of a builder

The builders of the wrapper module all have the same body. It is put together here from the few
forms of expressions and statements that it needs, each with its text and with what it does when the
module runs. Values are those of JSON, and beside them there is `undefined`, which a missing item or
member is.

A value other than null may be asked for any member. Only objects have members of their own; the
keys that the code asks for are no members of other values. A body takes its arguments as a whole
and does not ask for its parameters. But these are in its scope, and one that is called like
something in the module stands for an argument instead.
-/

namespace NodeSchema.Code

/-! ## 1. What expressions stand for -/

inductive Result where
  | undefined
  | value (v : Value)
  deriving Inhabited

namespace Result

/-- The word that `typeof` gives. Null and lists count as objects. -/
def typeOf : Result → String
  | .undefined => "undefined"
  | .value .null => "object"
  | .value (.bool _) => "boolean"
  | .value (.int _) => "number"
  | .value (.float _) => "number"
  | .value (.str _) => "string"
  | .value (.list _) => "object"
  | .value (.object _) => "object"

/-- Whether a test succeeds with a result. It does with lists and objects, empty or not. -/
def passes : Result → Bool
  | .undefined => false
  | .value .null => false
  | .value (.bool b) => b
  | .value (.int n) => n != 0
  | .value (.float x) => !x.isZero && !x.isNaN
  | .value (.str s) => s != ""
  | .value (.list _) => true
  | .value (.object _) => true

def ofOption : Option Value → Result
  | some v => .value v
  | none => .undefined

/-- The member under a key. Null and `undefined` cannot be asked for one. -/
def member? : Result → String → Option Result
  | .undefined, _ => none
  | .value .null, _ => none
  | .value v, key => some (ofOption (v.member? key))

def isText : Result → String → Bool
  | .value (.str s), text => s == text
  | _, _ => false

end Result

/-! ## 2. Expressions -/

/-- The names that are known at some place of a function, and the current location of the module,
whose own names are not among them. -/
structure Scope where
  names : List (String × Result)
  currentLocation : Value

namespace Scope

def withName (s : Scope) (n : String) (r : Result) : Scope :=
  { s with names := insertEntry n r s.names }

/-- Whether a name of the module stands for something else in this scope. -/
def hides (s : Scope) (n : String) : Bool := (lookupEntry n s.names).isSome

def items? (s : Scope) (array : String) : Option (List Value) :=
  match lookupEntry array s.names with
  | some (.value (.list items)) => some items
  | _ => none

end Scope

inductive Expression where
  | name (n : String)
  -- The last item of an array.
  | last (array : String)
  | member (object : Expression) (key : String)
  | typeOf (e : Expression)
  | isText (e : Expression) (text : String)
  | both (first second : Expression)
  | choice (test yes no : Expression)
  | currentLocation
  -- An expression in brackets.
  | group (e : Expression)
  -- An expression whose type is not checked.
  | unchecked (e : Expression)

namespace Expression

def text : Expression → String
  | .name n => n
  | .last array => array ++ "[" ++ array ++ ".length - 1]"
  | .member object key => object.text ++ "." ++ key
  | .typeOf e => "typeof " ++ e.text
  | .isText e t => e.text ++ " === '" ++ t ++ "'"
  | .both first second => first.text ++ " && " ++ second.text
  | .choice test yes no => test.text ++ " ? " ++ yes.text ++ " : " ++ no.text
  | .currentLocation => "getCurrentLocation()"
  | .group e => "(" ++ e.text ++ ")"
  | .unchecked e => "(" ++ e.text ++ ": any)"

/-- What an expression stands for; nothing if it fails. -/
def eval (s : Scope) : Expression → Option Result
  | .name n => lookupEntry n s.names
  | .last array => (s.items? array).map fun items => .ofOption items.getLast?
  | .member object key => (object.eval s).bind (·.member? key)
  | .typeOf e => (e.eval s).map fun r => .value (.str r.typeOf)
  | .isText e t => (e.eval s).map fun r => .value (.bool (r.isText t))
  | .both first second => (first.eval s).bind fun r => if r.passes then second.eval s else some r
  | .choice test yes no => (test.eval s).bind fun r => if r.passes then yes.eval s else no.eval s
  | .currentLocation =>
    if s.hides "getCurrentLocation" then none else some (.value s.currentLocation)
  | .group e => e.eval s
  | .unchecked e => e.eval s

end Expression

/-! ## 3. Statements -/

/-- What a body comes to: a function of the delegate with the arguments that it is called with, and
the location that the node gets in addition to the fields of the reply. -/
structure Built where
  function : String
  passed : List Value
  location : Result

/-- A statement. -/
inductive Statement where
  -- Puts the arguments of the call into a new array.
  | collect (array : String)
  | declare (keyword name : String) (e : Expression)
  | onlyIf (test : Expression) (body : Statement)
  -- Removes the last item of an array.
  | pop (array : String)
  | giveNode (function array : String) (location : Expression)

/-- Where a statement leads: to the next one, or out of the body. -/
inductive Next where
  | goOn (s : Scope)
  | done (b : Built)

namespace Statement

def lines (indent : String) : Statement → List String
  | .collect array => [indent ++ "const " ++ array ++ " = ([].slice: any).call(arguments);"]
  | .declare keyword n e => [indent ++ keyword ++ " " ++ n ++ " = " ++ e.text ++ ";"]
  | .onlyIf test body =>
    [indent ++ "if (" ++ test.text ++ ") \x7b"] ++ body.lines (indent ++ "  ") ++
      [indent ++ "\x7d"]
  | .pop array => [indent ++ array ++ ".pop();"]
  | .giveNode function array location =>
    [indent ++ "return \x7b...t." ++ function ++ ".apply(t, " ++ array ++ "), loc: " ++
      location.text ++ "\x7d;"]

/-- What a statement does; nothing if it fails. -/
def step (s : Scope) : Statement → Option Next
  | .collect array => (s.items? "arguments").map fun items =>
    .goOn (s.withName array (.value (.list items)))
  | .declare _ n e => (e.eval s).map fun r => .goOn (s.withName n r)
  | .onlyIf test body =>
    (test.eval s).bind fun r => if r.passes then body.step s else some (.goOn s)
  | .pop array => (s.items? array).map fun items =>
    .goOn (s.withName array (.value (.list items.dropLast)))
  -- An argument in the place of the delegate has no functions.
  | .giveNode function array location =>
    if s.hides "t" then none
    else (s.items? array).bind fun items =>
      (location.eval s).map fun r => .done ⟨function, items, r⟩

/-- What statements one after the other come to; nothing if one of them fails or none gives a
node. -/
def run (s : Scope) : List Statement → Option Built
  | [] => none
  | first :: rest =>
    match first.step s with
    | some (.goOn s) => run s rest
    | some (.done b) => some b
    | none => none

end Statement

/-! ## 4. The body of a builder -/

/-- The test whether the last argument is a location: a shape check, which an argument of that shape
passes whatever it was meant to be. -/
def locationTest : Expression :=
  .both
    (.both
      (.both (.name "loc") (.isText (.typeOf (.name "loc")) "object"))
      (.isText (.typeOf (.member (.name "loc") "start")) "object"))
    (.isText (.typeOf (.member (.name "loc") "end")) "object")

def builderBody (kind : String) : List Statement :=
  [.collect "args",
   .declare "let" "loc" (.last "args"),
   .declare "const" "hasLoc" (.group locationTest),
   .onlyIf (.name "hasLoc") (.pop "args"),
   .giveNode kind "args" (.choice (.name "hasLoc") (.unchecked (.name "loc")) .currentLocation)]

def Statement.declared : Statement → List String
  | .collect array => [array]
  | .declare _ n _ => [n]
  | _ => []

/-- Whether a body may follow parameters: they have distinct names, none of them takes the place of
the arguments as a whole, and the body declares none of them again. -/
def mayFollow (parameters : List String) (body : List Statement) : Bool :=
  decide parameters.Nodup && !parameters.contains "arguments" &&
    body.all fun s => s.declared.all (!parameters.contains ·)

/-- The arguments under the names of the parameters; `undefined` where there are too few. -/
def bindings (parameters : List String) (args : List Value) : List (String × Result) :=
  parameters.zipIdx.map fun p => (p.1, .ofOption args[p.2]?)

/-- What the builder of a kind comes to for arguments, at a time with a current location. -/
def runBuilder (parameters : List String) (kind : String) (args : List Value)
    (currentLocation : Value) : Option Built :=
  if mayFollow parameters (builderBody kind) then
    Statement.run ⟨("arguments", .value (.list args)) :: bindings parameters args, currentLocation⟩
      (builderBody kind)
  else none

end NodeSchema.Code
