import NodeSchema.Validator.Basic
import NodeSchema.Value.Inline
/-!
# Native descriptions of validators

The option objects that describe validators, read and written. Six options are known, and the first
of them, in a fixed order of precedence, that is given a truthy value decides what an object means;
the values of the others are not looked at. An object without a deciding option, and a value that is
neither null nor an object, describe the unknown validator. Null describes no validator.
-/

namespace NodeSchema

namespace Validator

/-! ## 1. The deciding option -/

/-- The options that can decide what a description means. -/
inductive Rule where
  | type
  | oneOfNodeTypes
  | oneOfNodeOrValueTypes
  | oneOf
  | each
  | chainOf
  deriving DecidableEq, Repr

namespace Rule

def key : Rule → String
  | .type => "type"
  | .oneOfNodeTypes => "oneOfNodeTypes"
  | .oneOfNodeOrValueTypes => "oneOfNodeOrValueTypes"
  | .oneOf => "oneOf"
  | .each => "each"
  | .chainOf => "chainOf"

def byPrecedence : List Rule :=
  [.type, .oneOfNodeTypes, .oneOfNodeOrValueTypes, .oneOf, .each, .chainOf]

/-- The value of an option, if it is given and truthy. -/
def given? (members : List (String × Value)) (r : Rule) : Option Value :=
  (lookupEntry r.key members).filter Value.truthy

/-- The deciding option among the members of a description, with its value. -/
def deciding? (members : List (String × Value)) : Option (Rule × Value) :=
  byPrecedence.findSome? fun r => (r.given? members).map (r, ·)

end Rule

/-! ## 2. Reading -/

inductive NativeError where
  | notList (rule : Rule)
  deriving DecidableEq, Repr

def NativeError.message : NativeError → String
  | .notList rule =>
    "validator field '" ++ rule.key ++ "' must be a list of " ++
      (if rule = .oneOf then "literal values" else "type names")

/-- The items of a list that the option needs. -/
def listOf (rule : Rule) : Value → Except NativeError (List Value)
  | .list items => .ok items
  | _ => .error (.notList rule)

/-- What has been read inside another description, where null is a description of no known shape. -/
def nested (read : Option Validator) : Validator := read.getD (.unknown .null)

mutual

/-- Reads a native description; null describes no validator. -/
def ofNative? : Value → Except NativeError (Option Validator)
  | .null => .ok none
  | .object members =>
    match Rule.deciding? members with
    | none => .ok (some (.unknown (.object members)))
    | some (.type, v) => .ok (some (.named v.name))
    | some (.oneOfNodeTypes, v) => do
      let items ← listOf .oneOfNodeTypes v
      return some (.oneOfTypes (items.map Value.name))
    | some (.oneOfNodeOrValueTypes, v) => do
      let items ← listOf .oneOfNodeOrValueTypes v
      return some (.oneOfTypes (items.map Value.name))
    | some (.oneOf, v) => do
      let items ← listOf .oneOf v
      return some (.oneOfValues items)
    | some (.each, _) => do
      let item ← ofEach members
      return some (.each item)
    | some (.chainOf, .list _) => do
      let links ← ofChain members
      return some (.chain links)
    | some (.chainOf, _) => .ok (some (.unknown (.object members)))
  | v => .ok (some (.unknown v))

def ofEach : List (String × Value) → Except NativeError Validator
  | [] => .ok (.unknown .null)
  | (k, v) :: rest => if k = Rule.each.key then (ofNative? v).map nested else ofEach rest

def ofChain : List (String × Value) → Except NativeError (List Validator)
  | [] => .ok []
  | (k, v) :: rest =>
    if k = Rule.chainOf.key then
      match v with
      | .list items => ofLinks items
      | _ => .ok []
    else ofChain rest

def ofLinks : List Value → Except NativeError (List Validator)
  | [] => .ok []
  | v :: rest => do
    let link ← ofNative? v
    let links ← ofLinks rest
    return nested link :: links

end

/-! ## 3. Writing -/

mutual

def toNative : Validator → Value
  | .named name => .object [(Rule.type.key, .str name)]
  | .oneOfTypes names => .object [(Rule.oneOfNodeTypes.key, .list (names.map Value.str))]
  | .oneOfValues values => .object [(Rule.oneOf.key, .list values)]
  | .each item => .object [(Rule.each.key, toNative item)]
  | .chain links => .object [(Rule.chainOf.key, .list (linksToNative links))]
  | .unknown raw => raw

def linksToNative : List Validator → List Value
  | [] => []
  | v :: rest => toNative v :: linksToNative rest

end

/-- Where a description is asked for, there has to be a validator. -/
inductive DescriptionError where
  | noValidator
  deriving DecidableEq, Repr

def DescriptionError.message : DescriptionError → String
  | .noValidator => "Unsupported validator: <class '" ++ Value.typeName .null ++ "'>"

/-- The native description of a validator that may be absent. -/
def describe : Option Validator → Except DescriptionError Value
  | none => .error .noValidator
  | some v => .ok v.toNative

end Validator

end NodeSchema
