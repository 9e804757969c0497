import NodeSchema.Value.Basic
/-!
# Validators

A validator says which values a field may hold. Node-schema libraries describe it by nested option
objects; this is the closed set of shapes that such a description can take. A description of no
known shape is kept as it is, so that a later stage can report it.
-/

namespace NodeSchema

inductive Validator where
  | named (name : String)
  | oneOfTypes (names : List String)
  | oneOfValues (values : List Value)
  -- Collections, every item of which passes.
  | each (item : Validator)
  -- Values that pass every link.
  | chain (links : List Validator)
  -- A description of no known shape.
  | unknown (raw : Value)
  deriving Inhabited

end NodeSchema
