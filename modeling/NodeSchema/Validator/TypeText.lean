import NodeSchema.Json.Writer
import NodeSchema.Validator.Basic
import NodeSchema.Value.Literal
/-!
# The type of a validator

A validator as a type expression. A name stands for itself, a choice of names or values is a union,
a chain of the type named `array` and a validator for the items is a sequence, and a chain of the
type named `string` and a choice of values is a union of texts in JSON. No other validator has a
type; the error names the innermost validator that stands in the way.
-/

namespace NodeSchema.Validator

structure Untranslatable where
  blamed : Validator

namespace Untranslatable

def code : String := "unrecognized_validator_shape"

def message : String := code ++ ": Unrecognised validator type"

end Untranslatable

def union (alternatives : List String) : String := " | ".intercalate alternatives

/-- The type expression of a validator. `sequence` is the name of the sequence type. -/
def typeText (sequence : String) : Validator → Except Untranslatable String
  | .named name => .ok name
  | .oneOfTypes names => .ok (union names)
  | .oneOfValues values => .ok (union (values.map Value.literal))
  | .chain [.named marker, .each item] =>
    if marker = "array" then do
      let itemType ← typeText sequence item
      return sequence ++ "<" ++ itemType ++ ">"
    else .error ⟨.chain [.named marker, .each item]⟩
  | .chain [.named marker, .oneOfValues values] =>
    if marker = "string" then .ok (union (values.map Json.write))
    else .error ⟨.chain [.named marker, .oneOfValues values]⟩
  | v => .error ⟨v⟩

end NodeSchema.Validator
