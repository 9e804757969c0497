import NodeSchema.Config
import NodeSchema.Declarations
import NodeSchema.Text.LowerCase
/-!
# The wrapper module

The second of the two artifacts: a module that exports one object with four functions for every node
kind. Its members are grouped by family, builders first, and stand in ascending order of the kinds
within each family. The module is put together as data and then written as lines.
-/

namespace NodeSchema

inductive Family where
  | build
  | test
  | require
  | cast
  deriving DecidableEq, Repr

/-- The families in the order of the module. -/
def Family.all : List Family := [.build, .test, .require, .cast]

def builderName (kind : String) : String := Text.lowerFirst kind

def Family.functionName : Family → String → String
  | .build, kind => builderName kind
  | .test, kind => "is" ++ kind
  | .require, kind => "assert" ++ kind
  | .cast, kind => "as" ++ kind

/-! ## 1. Signatures of builders -/

structure Parameter where
  name : String
  marker : String
  type : String
  deriving DecidableEq, Repr

structure Signature where
  kind : String
  parameters : List Parameter
  deriving DecidableEq, Repr

/-- The name of the parameter for a field: an underscore keeps it apart from a reserved word. -/
def parameterName (c : Config) (name : String) : String :=
  if name ∈ c.reservedWords then "_" ++ name else name

def Parameter.ofName (t : TypeResolver) (c : Config) (k : NodeKind) (name : String) :
    Resolving Parameter := do
  let field ← liftExcept (k.field name)
  let type ← t.resolve k.name name
  return { name := parameterName c name, marker := field.marker, type }

def Signature.ofKind (t : TypeResolver) (c : Config) (kind : String) : Resolving Signature := do
  let k ← liftExcept (t.registry.get kind)
  let parameters ← k.builderKeys.mapM (Parameter.ofName t c k)
  return { kind, parameters }

def Parameter.text (p : Parameter) : String := p.name ++ ": " ++ p.marker ++ p.type

def Signature.text (s : Signature) : String :=
  builderName s.kind ++ "(" ++ ", ".intercalate (s.parameters.map Parameter.text) ++ "): " ++ s.kind

/-! ## 2. Members -/

inductive Member where
  | builder (signature : Signature)
  | test (kind : String)
  | require (kind : String)
  | cast (kind : String)
  deriving DecidableEq, Repr

namespace Member

def family : Member → Family
  | .builder _ => .build
  | .test _ => .test
  | .require _ => .require
  | .cast _ => .cast

def kind : Member → String
  | .builder s => s.kind
  | .test kind => kind
  | .require kind => kind
  | .cast kind => kind

def name (m : Member) : String := m.family.functionName m.kind

/-- The lines of a member. A builder takes a last argument that is shaped like a location as the
location of the node, and gives any other node the current location. -/
def lines : Member → List String
  | .builder s =>
    ["  " ++ s.text ++ " \x7b",
     "    const args = ([].slice: any).call(arguments);",
     "    let loc = args[args.length - 1];",
     "    const hasLoc = (loc && typeof loc === 'object' " ++
       "&& typeof loc.start === 'object' && typeof loc.end === 'object');",
     "    if (hasLoc) \x7b",
     "      args.pop();",
     "    \x7d",
     "    return \x7b...t." ++ s.kind ++ ".apply(t, args), " ++
       "loc: hasLoc ? (loc: any) : getCurrentLocation()\x7d;",
     "  \x7d,"]
  | .test kind =>
    ["  is" ++ kind ++ "(value: any, opts?: Object): boolean \x7b",
     "    return t.is" ++ kind ++ ".apply(t, arguments);",
     "  \x7d,"]
  | .require kind =>
    ["  assert" ++ kind ++ "(value: " ++ kind ++ ", opts?: Object): mixed \x7b",
     "    return t.assert" ++ kind ++ ".apply(t, arguments);",
     "  \x7d,"]
  | .cast kind =>
    ["  as" ++ kind ++ "(value: any, opts?: Object): " ++ kind ++ " | void \x7b",
     "    return t.is" ++ kind ++ ".apply(t, arguments) ? (value: any) : undefined;",
     "  \x7d,"]

end Member

/-! ## 3. The module -/

structure Wrapper where
  disclaimer : String
  delegateSetter : String
  aggregateName : String
  members : List Member
  deriving DecidableEq, Repr

/-- The members for kinds whose builders have the given signatures. -/
def Member.ofSignatures (signatures : List Signature) : List Member :=
  let kinds := signatures.map Signature.kind
  signatures.map .builder ++ kinds.map .test ++ kinds.map .require ++ kinds.map .cast

def Wrapper.ofRegistry (t : TypeResolver) (c : Config) : Resolving Wrapper := do
  let signatures ← t.registry.kindNames.mapM (Signature.ofKind t c)
  return {
    disclaimer := c.disclaimer
    delegateSetter := c.delegateSetter
    aggregateName := c.aggregateName
    members := Member.ofSignatures signatures }

def Wrapper.lines (w : Wrapper) : List String :=
  ["// " ++ w.disclaimer,
   "// @flow",
   "",
   "let t: any = null;",
   "let currentLocation: any = null;",
   "export function getCurrentLocation(): Location \x7b return currentLocation; \x7d",
   "export function setCurrentLocation(loc: Location): Location " ++
     "\x7b return currentLocation = loc; \x7d",
   "export function " ++ w.delegateSetter ++ "(_t: Object): Location \x7b return t = _t; \x7d",
   "",
   "const " ++ w.aggregateName ++ " = \x7b"] ++
    w.members.flatMap Member.lines ++
    ["\x7d", "", "export default " ++ w.aggregateName ++ ";", ""]

end NodeSchema
