import NodeSchema.Value.Basic
/-!
# Delegates

Nodes are not built here but by a delegate: a collection of named functions. What a function returns
is a value or a plain object that is known by its fields; or it raises an error.
-/

namespace NodeSchema.Builders

inductive Reply where
  | value (v : Value)
  | plain (fields : List (String × Value))
  deriving Inhabited

namespace Reply

/-- Whether a reply counts as given; a plain object does. -/
def truthy : Reply → Bool
  | .value v => v.truthy
  | .plain _ => true

def fields? : Reply → Option (List (String × Value))
  | .value (.object members) => some members
  | .value _ => none
  | .plain fields => some fields

end Reply

structure Raised where
  name : String
  message : String
  deriving DecidableEq, Repr

abbrev Function := List Value → Except Raised Reply

inductive Identity where
  | numbered (n : Nat)
  | value (v : Value)

structure Delegate where
  identity : Identity
  function? : String → Option Function
  missing : String → String

/-- A plain value in the place of a delegate; it has no functions. -/
def Delegate.ofValue (v : Value) : Delegate where
  identity := .value v
  function? := fun _ => none
  missing := fun name => "'" ++ v.typeName ++ "' object has no attribute '" ++ name ++ "'"

end NodeSchema.Builders
