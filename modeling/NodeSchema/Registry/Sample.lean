import NodeSchema.Registry.Document
/-!
# A sample registry

A small registry document with a few kinds of a JavaScript syntax tree, for demonstrations. It has
every known shape of validator, optional fields, defaults, and one validator of no known shape.
-/

namespace NodeSchema.Registry.Sample

/-! ## 1. Pieces of documents -/

def names (l : List String) : Value := .list (l.map .str)

def type (name : String) : Value := .object [("type", .str name)]

def nodeTypes (l : List String) : Value := .object [("oneOfNodeTypes", names l)]

def oneOf (l : List String) : Value := .object [("oneOf", names l)]

def arrayOf (item : Value) : Value :=
  .object [("chainOf", .list [type "array", .object [("each", item)]])]

def expression : Value := type "Expression"

def required (validator : Value) : Value := .object [("validate", validator)]

def optional (validator : Value) : Value :=
  .object [("validate", validator), ("optional", .bool true)]

def withDefault (validator default : Value) : Value :=
  .object [("validate", validator), ("default", default)]

/-- A flag that is off unless it is set. -/
def flag : Value := withDefault (type "boolean") (.bool false)

/-! ## 2. The tables -/

def builderKeys : List (String × Value) :=
  [("BinaryExpression", names ["operator", "left", "right"]),
   ("BooleanLiteral", names ["value"]),
   ("CallExpression", names ["callee", "arguments"]),
   ("ClassMethod", names ["kind", "key", "params", "body", "computed", "static"]),
   ("FunctionExpression", names ["id", "params", "body", "generator", "async"]),
   ("Identifier", names ["name"]),
   ("JSXText", names ["value"]),
   ("MemberExpression", names ["object", "property", "computed", "optional"]),
   ("NumericLiteral", names ["value"]),
   ("StringLiteral", names ["value"]),
   ("TemplateElement", names ["value", "tail"])]

def aliases : List (String × Value) :=
  [("BinaryExpression", names ["Binary", "Expression"]),
   ("BooleanLiteral", names ["Expression", "Pureish", "Literal", "Immutable"]),
   ("CallExpression", names ["Expression"]),
   ("ClassMethod", names ["Function", "Scopable", "BlockParent", "FunctionParent", "Method"]),
   ("FunctionExpression",
    names ["Scopable", "Function", "BlockParent", "FunctionParent", "Expression", "Pureish"]),
   ("Identifier", names ["Expression", "PatternLike", "LVal"]),
   ("JSXText", names ["JSX", "Immutable"]),
   ("MemberExpression", names ["Expression", "LVal"]),
   ("NumericLiteral", names ["Expression", "Pureish", "Literal", "Immutable"]),
   ("StringLiteral", names ["Expression", "Pureish", "Literal", "Immutable"]),
   ("TemplateElement", names [])]

def binaryExpression : Value :=
  .object
    [("operator", required (oneOf ["+", "-", "*", "/", "==", "===", "in"])),
     ("left", required expression),
     ("right", required expression)]

def callExpression : Value :=
  .object
    [("callee", required expression),
     ("arguments", required (arrayOf (nodeTypes
       ["Expression", "SpreadElement", "JSXNamespacedName", "ArgumentPlaceholder"]))),
     ("optional", optional (.object [("oneOf", .list [.bool true, .bool false])])),
     ("typeArguments", optional (type "TypeParameterInstantiation"))]

def classMethod : Value :=
  .object
    [("kind", withDefault
       (.object [("chainOf",
         .list [type "string", oneOf ["get", "set", "method", "constructor"]])])
       (.str "method")),
     ("key", required (nodeTypes
       ["Identifier", "StringLiteral", "NumericLiteral", "Expression"])),
     ("params", required (arrayOf (nodeTypes
       ["Identifier", "Pattern", "RestElement", "TSParameterProperty"]))),
     ("body", required (type "BlockStatement")),
     ("computed", flag),
     ("static", flag),
     ("async", flag),
     ("decorators", optional (arrayOf (type "Decorator")))]

def functionExpression : Value :=
  .object
    [("id", optional (type "Identifier")),
     ("params", required (arrayOf (nodeTypes ["Identifier", "Pattern", "RestElement"]))),
     ("body", required (type "BlockStatement")),
     ("generator", flag),
     ("async", flag)]

def identifier : Value :=
  .object
    [("name", required (type "string")),
     ("optional", optional (type "boolean")),
     ("typeAnnotation", optional (nodeTypes ["TypeAnnotation", "TSTypeAnnotation", "Noop"])),
     ("decorators", optional (arrayOf (type "Decorator")))]

def memberExpression : Value :=
  .object
    [("object", required (nodeTypes ["Expression", "Super"])),
     ("property", required (nodeTypes ["Identifier", "PrivateName"])),
     ("computed", .object [("default", .bool false)]),
     ("optional", optional (.object [("oneOf", .list [.bool true, .bool false])]))]

/-- The fields of a piece of a template. -/
def templateElement : Value :=
  .object
    [("value", required (.object [("shapeOf", .object
       [("raw", type "string"),
        ("cooked", .object [("type", .str "string"), ("optional", .bool true)])])])),
     ("tail", flag)]

def literal (typeName : String) : Value := .object [("value", required (type typeName))]

def fields : List (String × Value) :=
  [("BinaryExpression", binaryExpression),
   ("BooleanLiteral", literal "boolean"),
   ("CallExpression", callExpression),
   ("ClassMethod", classMethod),
   ("FunctionExpression", functionExpression),
   ("Identifier", identifier),
   ("JSXText", literal "string"),
   ("MemberExpression", memberExpression),
   ("NumericLiteral", literal "number"),
   ("StringLiteral", literal "string"),
   ("TemplateElement", templateElement)]

def document : Value :=
  .object
    [("BUILDER_KEYS", .object builderKeys),
     ("ALIAS_KEYS", .object aliases),
     ("NODE_FIELDS", .object fields)]

def registry : Except DocumentError Registry := ofDocument document

end NodeSchema.Registry.Sample
