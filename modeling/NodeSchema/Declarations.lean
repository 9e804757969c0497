import NodeSchema.AliasMap
import NodeSchema.Config
import NodeSchema.TypeResolver
/-!
# Type declarations

The first of the two artifacts: a class for every node kind, in ascending order of the kinds, and a
union for every alias that is not excluded, in the order in which the aliases first occur. The
declarations are put together as data and then written as lines.
-/

namespace NodeSchema

/-- The sign in front of the type of a field that may be left out. -/
def Field.marker (f : Field) : String := if f.isOptional then "?" else ""

structure FieldDeclaration where
  name : String
  marker : String
  type : String
  deriving DecidableEq, Repr

structure ClassDeclaration where
  kind : String
  fields : List FieldDeclaration
  -- The aliases of the kind, the universal one last.
  aliases : List String
  deriving DecidableEq, Repr

structure UnionDeclaration where
  name : String
  members : List String
  deriving DecidableEq, Repr

structure Declarations where
  disclaimer : String
  classes : List ClassDeclaration
  -- The members of all aliases, whether excluded or not.
  aliases : AliasMap
  unions : List UnionDeclaration

/-! ## 1. Putting the declarations together -/

def FieldDeclaration.ofName (t : TypeResolver) (k : NodeKind) (name : String) :
    Resolving FieldDeclaration := do
  let type ← t.resolve k.name name
  let field ← liftExcept (k.field name)
  return { name, marker := field.marker, type }

def ClassDeclaration.ofKind (t : TypeResolver) (c : Config) (kind : String) :
    Resolving ClassDeclaration := do
  let k ← liftExcept (t.registry.get kind)
  let shown := k.orderedFields.filter (· ∉ c.skippedFields)
  let fields ← shown.mapM (FieldDeclaration.ofName t k)
  return { kind, fields, aliases := k.aliases ++ [c.universalAlias] }

def AliasMap.ofClasses (classes : List ClassDeclaration) : AliasMap :=
  classes.foldl (fun m d => m.record d.kind d.aliases) ∅

/-- The unions of the aliases that are not excluded. -/
def UnionDeclaration.ofAliases (c : Config) (m : AliasMap) : List UnionDeclaration :=
  (m.keys.filter (· ∉ c.excludedAliases)).map fun name => { name, members := m.members name }

def Declarations.ofRegistry (t : TypeResolver) (c : Config) : Resolving Declarations := do
  let classes ← t.registry.kindNames.mapM (ClassDeclaration.ofKind t c)
  let aliases := AliasMap.ofClasses classes
  return {
    disclaimer := c.disclaimer
    classes
    aliases
    unions := UnionDeclaration.ofAliases c aliases }

/-! ## 2. Writing -/

def locationLine : String :=
  "type Location = \x7bstart: \x7bline: number, column: number\x7d, " ++
    "end: \x7bline: number, column: number\x7d\x7d;"

/-- The type of a value inside markup. -/
def jsxValueLine : String :=
  "type JSXValue = JSXText | JSXExpressionContainer | JSXSpreadChild | JSXElement;"

def FieldDeclaration.line (d : FieldDeclaration) : String :=
  "  " ++ d.name ++ ": " ++ d.marker ++ d.type ++ ";"

def aliasLine (name : String) : String := "  // alias: " ++ name

def ClassDeclaration.lines (d : ClassDeclaration) : List String :=
  ["declare class " ++ d.kind ++ " \x7b", "  type: '" ++ d.kind ++ "';", "  loc: ?Location;"] ++
    d.fields.map FieldDeclaration.line ++ [""] ++ d.aliases.map aliasLine ++ ["\x7d", ""]

/-- The lines of a union; a stroke stands in front of every member. -/
def UnionDeclaration.lines (d : UnionDeclaration) : List String :=
  ["type " ++ d.name ++ " = (| " ++ Validator.union d.members ++ ");", ""]

def Declarations.lines (d : Declarations) : List String :=
  ["// " ++ d.disclaimer, "", locationLine, ""] ++ d.classes.flatMap ClassDeclaration.lines ++
    d.unions.flatMap UnionDeclaration.lines ++ [jsxValueLine]

end NodeSchema
