import NodeSchema.Builders.Delegate
import NodeSchema.Text.Quoted
/-!
# Scripted delegates

A delegate that is described by data: every function does one of a few simple things. A script names
kinds, each of which gets a function that builds its nodes, a test and an assertion; single
functions can be added or replaced.
-/

namespace NodeSchema.Builders

inductive Behaviour where
  | node
  | give (v : Value)
  | plain (fields : List (String × Value))
  | raise (error : Raised)
  | check (kind : String)
  | require (kind : String)
  deriving Inhabited

def memberOrNull (v : Value) (key : String) : Value := (v.member? key).getD .null

/-- Whether a value is a node of the kind and has the members that are asked for. -/
def isNode (kind : String) (v : Value) (asked : Option Value) : Bool :=
  v.isObject && (memberOrNull v "type").same (.str kind) &&
    match asked with
    | some (.object members) => members.all fun e => (memberOrNull v e.1).same e.2
    | _ => true

def Behaviour.function (name : String) : Behaviour → Function
  | .node, args => .ok (.value (.object [("type", .str name), ("args", .list args)]))
  | .give v, _ => .ok (.value v)
  | .plain fields, _ => .ok (.plain fields)
  | .raise error, _ => .error error
  | .check kind, args => .ok (.value (.bool (isNode kind (args.headD .null) args[1]?)))
  | .require kind, args =>
    if isNode kind (args.headD .null) args[1]? then .ok (.value .null)
    else .error ⟨"TypeError", "Expected " ++ kind⟩

structure Script where
  kinds : List String
  functions : List (String × Behaviour)

def usualFunctions (kind : String) : List (String × Behaviour) :=
  [(kind, .node), ("is" ++ kind, .check kind), ("assert" ++ kind, .require kind)]

/-- All functions of a script; of two with one name the later counts. -/
def Script.table (s : Script) : Table String Behaviour :=
  .ofList (s.kinds.flatMap usualFunctions ++ s.functions)

def Script.delegate (s : Script) (number : Nat) : Delegate where
  identity := .numbered number
  function? := fun name => (s.table.get? name).map (·.function name)
  missing := fun name => "no attribute " ++ Text.quoted name

end NodeSchema.Builders
