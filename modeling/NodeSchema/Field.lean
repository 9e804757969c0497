import NodeSchema.Invalid
/-!
# Fields

What a registry says about one field of a node kind: which values it may hold, whether it may be
left out, and its default. The entry of a field is an object with the members `validate` (or, in its
absence, `validator`), `optional` and `default`; each of them may be absent, and further members
have no meaning. The default null means that there is no default.
-/

namespace NodeSchema

structure Field where
  validator : Option Validator
  optional : Bool
  default : Value
  deriving Inhabited

namespace Field

def hasDefault (f : Field) : Bool := !f.default.isNull

/-- Whether the field may be left out when a node is built. -/
def isOptional (f : Field) : Bool := f.optional || f.hasDefault

/-- The member that describes the validator, with its key: `validate` if it is present, even if it
is null, otherwise `validator`. -/
def description? (entry : Value) : Option (String × Value) :=
  match entry.member? "validate" with
  | some v => some ("validate", v)
  | none => (entry.member? "validator").map ("validator", ·)

def validatorOf (entry : Value) : Except Issue (Option Validator) :=
  match description? entry with
  | none => .ok none
  | some (key, v) =>
    match Validator.ofNative? v with
    | .ok validator => .ok validator
    | .error e => .error ⟨[.key key], .description e⟩

def ofEntry (entry : Value) : Except Issue Field :=
  if entry.isObject then do
    let validator ← validatorOf entry
    return {
      validator
      optional := ((entry.member? "optional").map Value.truthy).getD false
      default := (entry.member? "default").getD .null }
  else .error ⟨[], .notEntry .field⟩

/-- Reads the entry of a field that stands by itself. -/
def read (entry : Value) : Except Invalid Field :=
  (ofEntry entry).mapError fun issue => ⟨.field, issue, []⟩

end Field

end NodeSchema
