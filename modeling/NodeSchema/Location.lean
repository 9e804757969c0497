import NodeSchema.Value.Basic
/-!
# Source locations

Whether a value is shaped like a source location. The check looks at the shape alone: an argument of
a builder that is an object with an object under `start` and one under `end` is a location, whatever
it was meant to be.
-/

namespace NodeSchema

def Value.hasObject (v : Value) (key : String) : Bool := (v.member? key).any Value.isObject

/-- Whether a value is shaped like a source location. -/
def Value.isLocation (v : Value) : Bool := v.hasObject "start" && v.hasObject "end"

end NodeSchema
