import NodeSchema.Checked
import NodeSchema.Field
import NodeSchema.NameOrder
/-!
# Node kinds

What a registry says about one kind of nodes: its name, the fields that its builder takes in order,
all its fields, and the aliases under which it is grouped with other kinds. A kind has a name, and
its builder takes none but its own fields; both are part of the type.
-/

namespace NodeSchema

/-- The distinct names of a list, in the order of their last occurrences. -/
def lastOccurrences : List String → List String
  | [] => []
  | a :: rest => if a ∈ rest then lastOccurrences rest else a :: lastOccurrences rest

structure NodeKind where
  name : String
  builderKeys : List String
  fields : Table String Field
  aliases : List String
  name_ne : name ≠ ""
  builderKeys_fields : ∀ key ∈ builderKeys, key ∈ fields.keys

namespace NodeKind

/-- The names of all fields: those that the builder takes in the order of their last occurrences,
then the others in ascending order. -/
def orderedFields (k : NodeKind) : List String :=
  lastOccurrences k.builderKeys ++ sortNames (k.fields.keys.filter (· ∉ k.builderKeys))

/-! ## 1. The parts of an entry -/

def checkName : Option Value → Checked { s : String // s ≠ "" }
  | none => .refuse .missing
  | some (.str s) => if h : s = "" then .refuse .emptyText else .ok ⟨s, h⟩
  | some _ => .refuse .notText

def checkText : Value → Checked String
  | .str s => .ok s
  | _ => .refuse .notText

/-- The items of a list of names, from position `i` on. -/
def checkTexts (i : Nat) : List Value → Checked (List String)
  | [] => .ok []
  | v :: rest =>
    (((checkText v).under [.index i]).both (checkTexts (i + 1) rest)).map fun p => p.1 :: p.2

/-- A list of names; an absent one is empty. -/
def checkNames : Option Value → Checked (List String)
  | none => .ok []
  | some (.list items) => checkTexts 0 items
  | some _ => .refuse .notList

def checkMembers : List (String × Value) → Checked (List (String × Field))
  | [] => .ok []
  | (name, entry) :: rest =>
    (((Checked.ofExcept (Field.ofEntry entry)).under [.key name]).both (checkMembers rest)).map
      fun p => (name, p.1) :: p.2

/-- A table of fields; an absent one is empty. -/
def checkFields : Option Value → Checked (Table String Field)
  | none => .ok ∅
  | some (.object members) => (checkMembers members).map .ofList
  | some _ => .refuse .notObject

/-! ## 2. Whole entries -/

/-- A kind from parts that are in order; what remains to be checked is that the builder takes fields
of the kind. -/
def ofParts (name : { s : String // s ≠ "" }) (builderKeys : List String)
    (fields : Table String Field) (aliases : List String) : Checked NodeKind :=
  if h : ∀ key ∈ builderKeys, key ∈ fields.keys then
    .ok {
      name := name.val, builderKeys, fields, aliases
      name_ne := name.property
      builderKeys_fields := h }
  else .refuse (.builderKeys name.val (builderKeys.filter (· ∉ fields.keys)))

/-- A kind from its parts as they stand in an entry. The issues of all parts are collected. -/
def assemble (name builderKeys : Option Value) (fields : Checked (Table String Field))
    (aliases : Option Value) : Except Invalid NodeKind :=
  let parts :=
    ((checkName name).under [.key "name"]).both
      (((checkNames builderKeys).under [.key "builder_keys"]).both
        ((fields.under [.key "fields"]).both ((checkNames aliases).under [.key "aliases"])))
  match parts with
  | .ok (name, builderKeys, fields, aliases) =>
    (ofParts name builderKeys fields aliases).toExcept .nodeKind
  | .refused first others => .error ⟨.nodeKind, first, others⟩

def read (entry : Value) : Except Invalid NodeKind :=
  if entry.isObject then
    assemble (entry.member? "name") (entry.member? "builder_keys")
      (checkFields (entry.member? "fields")) (entry.member? "aliases")
  else .error ⟨.nodeKind, ⟨[], .notEntry .nodeKind⟩, []⟩

end NodeKind

end NodeSchema
