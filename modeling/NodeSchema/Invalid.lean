import NodeSchema.Validator.Native
/-!
# Issues with registry entries

What can be wrong with the entry of a node kind or of a field. An issue names the place inside the
entry by the keys and positions that lead to it; an entry with more than one issue is reported with
all of them.
-/

namespace NodeSchema

/-- A step on the way into an entry. -/
inductive Step where
  | key (name : String)
  | index (position : Nat)
  deriving DecidableEq, Repr

def Step.text : Step → String
  | .key name => name
  | .index position => toString position

inductive EntryKind where
  | field
  | nodeKind
  deriving DecidableEq, Repr

def EntryKind.label : EntryKind → String
  | .field => "FieldSpec"
  | .nodeKind => "NodeKindSpec"

inductive Problem where
  | missing
  | notText
  | emptyText
  | notList
  | notObject
  | notEntry (kind : EntryKind)
  | description (error : Validator.NativeError)
  | builderKeys (kind : String) (keys : List String)
  deriving DecidableEq, Repr

namespace Problem

def code : Problem → String
  | .missing => "missing"
  | .notText => "string_type"
  | .emptyText => "string_too_short"
  | .notList => "tuple_type"
  | .notObject => "dict_type"
  | .notEntry _ => "model_type"
  | .description _ => "value_error"
  | .builderKeys _ _ => "value_error"

def message : Problem → String
  | .missing => "Field required"
  | .notText => "Input should be a valid string"
  | .emptyText => "String should have at least 1 character"
  | .notList => "Input should be a valid tuple"
  | .notObject => "Input should be a valid dictionary"
  | .notEntry kind => "Input should be a valid dictionary or instance of " ++ kind.label
  | .description error => "Value error, " ++ error.message
  | .builderKeys kind keys =>
    "Value error, " ++ kind ++ ": builder keys without field entry: " ++
      (Value.list (keys.map .str)).inline

end Problem

structure Issue where
  path : List Step
  problem : Problem
  deriving DecidableEq, Repr

namespace Issue

/-- The same issue, seen from outside the given steps. -/
def under (steps : List Step) (i : Issue) : Issue := ⟨steps ++ i.path, i.problem⟩

/-- The lines on an issue in a report: the place, unless it is the entry itself, and the problem. -/
def lines (i : Issue) : List String :=
  (if i.path.isEmpty then [] else [".".intercalate (i.path.map Step.text)]) ++
    ["  " ++ i.problem.message]

end Issue

structure Invalid where
  kind : EntryKind
  first : Issue
  others : List Issue
  deriving DecidableEq, Repr

namespace Invalid

def issues (e : Invalid) : List Issue := e.first :: e.others

def title (e : Invalid) : String :=
  toString e.issues.length ++ " validation error" ++ (if e.others.isEmpty then "" else "s") ++
    " for " ++ e.kind.label

/-- The report: the heading and the lines on every issue. -/
def message (e : Invalid) : String :=
  "\n".intercalate (e.title :: e.issues.flatMap Issue.lines)

end Invalid

end NodeSchema
