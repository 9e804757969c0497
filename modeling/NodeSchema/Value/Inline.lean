import NodeSchema.Decimal.Text
import NodeSchema.Text.Quoted
import NodeSchema.Value.Basic
/-!
# Values on one line

The text of a value in messages and names: lists in brackets, objects in braces with a colon after
each key, texts quoted, and words for null, the truth values and the special numbers.
-/

namespace NodeSchema.Value

def specialNames : SpecialNames where
  nan := "nan"
  infinity := "inf"

mutual

def inline : Value → String
  | .null => "None"
  | .bool true => "True"
  | .bool false => "False"
  | .int n => toString n
  | .float x => x.text specialNames
  | .str s => Text.quoted s
  | .list items => "[" ++ inlineItems items ++ "]"
  | .object members => "\x7b" ++ inlineMembers members ++ "\x7d"

def inlineItems : List Value → String
  | [] => ""
  | [v] => inline v
  | v :: w :: rest => inline v ++ ", " ++ inlineItems (w :: rest)

def inlineMembers : List (String × Value) → String
  | [] => ""
  | [(k, v)] => Text.quoted k ++ ": " ++ inline v
  | (k, v) :: e :: rest => Text.quoted k ++ ": " ++ inline v ++ ", " ++ inlineMembers (e :: rest)

end

/-- The value as a name: a text stands for itself, every other value for its text on one line. -/
def name : Value → String
  | .str s => s
  | v => v.inline

end NodeSchema.Value
