import NodeSchema.Log
import NodeSchema.Registry.Basic
import NodeSchema.Validator.TypeText
import NodeSchema.Value.Layout
/-!
# Resolving the types of fields

The declared type of a field is the override for it, if there is one; otherwise the type of its
validator; and the unknown type if it has no validator or a validator without a type. In the last
case a diagnostic is kept and two warnings are logged. A look-up in the registry that fails leaves
the findings as they are.
-/

namespace NodeSchema

/-- A field with a validator that has no type. -/
structure Diagnostic where
  kind : String
  field : String
  -- The validator, inside that of the field, that stands in the way.
  blamed : Validator

def Diagnostic.message (d : Diagnostic) : String :=
  "Unrecognised validator type for " ++ d.kind ++ "." ++ d.field

structure Findings where
  diagnostics : List Diagnostic
  log : List Log.Record

namespace Findings

def none : Findings := ⟨[], []⟩

def logged (f : Findings) (r : Log.Record) : Findings := { f with log := f.log ++ [r] }

def diagnosed (f : Findings) (d : Diagnostic) : Findings :=
  { f with diagnostics := f.diagnostics ++ [d] }

end Findings

/-- A computation that adds to the findings and may ask the registry for what is not there. -/
abbrev Resolving := ExceptT Registry.LookupError (StateM Findings)

def Resolving.log (level : Log.Level) (source : Log.Source) (message : String) : Resolving Unit :=
  modify (·.logged ⟨level, source, message⟩)

/-- What decides about types: the registry, the overrides, and two names. -/
structure TypeResolver where
  registry : Registry
  overrides : List (String × List (String × String))
  unknownType : String
  sequenceType : String

namespace TypeResolver

/-- The types that are fixed unless others are given: fields that accept any expression at run time
and are surfaced narrowly. -/
def defaultOverrides : List (String × List (String × String)) :=
  [("ClassMethod", [("key", "Expression")]),
   ("ClassProperty", [("key", "Expression")]),
   ("Identifier", [("name", "string")]),
   ("MemberExpression", [("property", "Expression")]),
   ("OptionalMemberExpression", [("property", "Expression")]),
   ("ObjectMethod", [("key", "Expression")]),
   ("ObjectProperty", [("key", "Expression")]),
   ("TSDeclareMethod", [("key", "Expression")])]

/-- The bounds of the layout in which a validator is logged. -/
def reportBounds : Value.Bounds := ⟨80, 10⟩

def overrideFor? (t : TypeResolver) (kind name : String) : Option String :=
  (lookupEntry kind t.overrides).bind (lookupEntry name)

/-- Keeps a diagnostic on a field with this validator, and logs it. -/
def report (d : Diagnostic) (validator : Validator) : Resolving Unit := do
  modify (·.diagnosed d)
  Resolving.log .warning .resolver d.message
  Resolving.log .warning .resolver (validator.toNative.layout reportBounds)

def resolve (t : TypeResolver) (kind name : String) : Resolving String := do
  match t.overrideFor? kind name with
  | some type => return type
  | none =>
    let field ← liftExcept (t.registry.field kind name)
    match field.validator with
    | none => return t.unknownType
    | some validator =>
      match validator.typeText t.sequenceType with
      | .ok type => return type
      | .error e =>
        report ⟨kind, name, e.blamed⟩ validator
        return t.unknownType

end TypeResolver

end NodeSchema
