import NodeSchema.Registry.Basic
/-!
# Registry documents

A registry document is an object with three tables, each of which has an entry for a node kind under
its name: the fields of the kind, the keys that its builder takes, and its aliases. The table of
builder keys decides which kinds there are. What is falsy counts as absent wherever a document may
leave something out, and a list of names may also be given as a text, read as its characters, or as
an object, read as its keys.
-/

namespace NodeSchema.Registry

inductive DocumentError where
  | notObject (found : String)
  | missingTable (key : String)
  | tableNotObject (key : String)
  | fieldsNotObject (kind : String)
  | invalid (kind : String) (reason : Invalid)
  | notNames (found : String)
  deriving DecidableEq, Repr

def DocumentError.message : DocumentError → String
  | .notObject found => "Registry document must be an object, got <class '" ++ found ++ "'>"
  | .missingTable key => "Registry document requires table " ++ Text.quoted key
  | .tableNotObject key => "Registry table " ++ Text.quoted key ++ " must be an object"
  | .fieldsNotObject kind => kind ++ ": field table must be an object"
  | .invalid kind reason => kind ++ ": invalid registry entry: " ++ reason.message
  | .notNames found => "'" ++ found ++ "' object is not iterable"

structure Tables where
  fields : List (String × Value)
  builderKeys : List (String × Value)
  aliases : List (String × Value)

/-! ## 1. The entry of one kind -/

/-- The value of an entry, null if it is absent. -/
def entryOf (kind : String) (table : List (String × Value)) : Value :=
  (lookupEntry kind table).getD .null

/-- The items of a list of names in any of its forms. -/
def namesOf (v : Value) : Except DocumentError (List Value) :=
  if v.truthy then
    match v with
    | .list items => .ok items
    | .str s => .ok (s.toList.map fun c => .str (String.singleton c))
    | .object members => .ok (members.map fun e => .str e.1)
    | _ => .error (.notNames v.typeName)
  else .ok []

/-- The members of a table of fields. -/
def fieldEntriesOf (kind : String) (v : Value) : Except DocumentError (List (String × Value)) :=
  if v.truthy then
    match v with
    | .object members => .ok members
    | _ => .error (.fieldsNotObject kind)
  else .ok []

/-- A field entry; a falsy one says nothing about the field. -/
def fieldOf (v : Value) : Except Invalid Field :=
  Field.read (if v.truthy then v else .object [])

/-- The fields of a kind, up to the first one that is refused. -/
def fieldsOf (kind : String) :
    List (String × Value) → Except DocumentError (List (String × Field))
  | [] => .ok []
  | (name, v) :: rest => do
    let field ← (fieldOf v).mapError (.invalid kind)
    let fields ← fieldsOf kind rest
    return (name, field) :: fields

/-- The kind with the given entry in the table of builder keys. -/
def kindOf (tables : Tables) (kind : String) (keys : Value) : Except DocumentError NodeKind := do
  let entries ← fieldEntriesOf kind (entryOf kind tables.fields)
  let builderKeys ← namesOf keys
  let fields ← fieldsOf kind entries
  let aliases ← namesOf (entryOf kind tables.aliases)
  (NodeKind.assemble (some (.str kind)) (some (.list builderKeys)) (.ok (.ofList fields))
    (some (.list aliases))).mapError (.invalid kind)

/-! ## 2. Whole documents -/

def kindsOf (tables : Tables) : List (String × Value) → Except DocumentError (List NodeKind)
  | [] => .ok []
  | (kind, keys) :: rest => do
    let k ← kindOf tables kind keys
    let ks ← kindsOf tables rest
    return k :: ks

def ofTables (tables : Tables) : Except DocumentError Registry := do
  let kinds ← kindsOf tables tables.builderKeys
  return ofKinds kinds

/-- A table that has to be there. -/
def requiredTable (document : Value) (key : String) :
    Except DocumentError (List (String × Value)) :=
  match (document.member? key).getD .null with
  | .null => .error (.missingTable key)
  | .object members => .ok members
  | _ => .error (.tableNotObject key)

def optionalTable (document : Value) (key : String) :
    Except DocumentError (List (String × Value)) :=
  match (document.member? key).getD .null with
  | .null => .ok []
  | .object members => .ok members
  | _ => .error (.tableNotObject key)

def ofDocument (document : Value) : Except DocumentError Registry :=
  if document.isObject then do
    let fields ← requiredTable document "NODE_FIELDS"
    let builderKeys ← requiredTable document "BUILDER_KEYS"
    let aliases ← optionalTable document "ALIAS_KEYS"
    ofTables { fields, builderKeys, aliases }
  else .error (.notObject document.typeName)

end NodeSchema.Registry
