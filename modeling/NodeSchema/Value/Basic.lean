import NodeSchema.Decimal.Binary
import NodeSchema.Table
/-!
# Values

A `Value` is what a JSON document decodes to. Integers are exact and of any size, apart from the
floating point numbers. An object lists its members in the order in which their keys first arrived;
the reader never gives one key to two members, and a look-up finds the first.
-/

namespace NodeSchema

inductive Value where
  | null
  | bool (b : Bool)
  | int (n : Int)
  | float (x : Binary64)
  | str (s : String)
  | list (items : List Value)
  | object (members : List (String × Value))
  deriving Inhabited

namespace Value

/-- Whether a value counts as given: everything but null, false, the zeros and what is empty.
Not-a-number counts as given. -/
def truthy : Value → Bool
  | .null => false
  | .bool b => b
  | .int n => n != 0
  | .float x => !x.isZero
  | .str s => s != ""
  | .list items => !items.isEmpty
  | .object members => !members.isEmpty

def isObject : Value → Bool
  | .object _ => true
  | _ => false

def isNull : Value → Bool
  | .null => true
  | _ => false

/-- The member of an object under a key; a value of another kind has no members. -/
def member? : Value → String → Option Value
  | .object members, key => lookupEntry key members
  | _, _ => none

@[simp] theorem member?_object (members : List (String × Value)) (key : String) :
    (Value.object members).member? key = lookupEntry key members := rfl

def typeName : Value → String
  | .null => "NoneType"
  | .bool _ => "bool"
  | .int _ => "int"
  | .float _ => "float"
  | .str _ => "str"
  | .list _ => "list"
  | .object _ => "dict"

/-! ## 1. Numbers compared across kinds -/

/-- Whether an integer and a floating point number are the same number. -/
def intEqFloat (n : Int) (x : Binary64) : Bool :=
  !x.isNaN && !x.isInfinite && x.toInt? == some n

/-- Whether two floating point numbers are the same number: the zeros are, not-a-number is not. -/
def floatEq (x y : Binary64) : Bool :=
  !x.isNaN && !y.isNaN && (x == y || (x.isZero && y.isZero))

/-- The integer that a truth value counts as. -/
def ofBool (b : Bool) : Int := if b then 1 else 0

mutual

/-- Whether two values are equal: numbers by what they stand for, truth values as one and zero,
lists item by item, objects member by member in any order. -/
def same : Value → Value → Bool
  | .null, .null => true
  | .bool a, .bool b => a == b
  | .bool a, .int n => ofBool a == n
  | .int n, .bool a => n == ofBool a
  | .bool a, .float x => intEqFloat (ofBool a) x
  | .float x, .bool a => intEqFloat (ofBool a) x
  | .int m, .int n => m == n
  | .int n, .float x => intEqFloat n x
  | .float x, .int n => intEqFloat n x
  | .float x, .float y => floatEq x y
  | .str s, .str t => s == t
  | .list vs, .list ws => sameItems vs ws
  | .object vs, .object ws => vs.length == ws.length && sameMembers vs ws
  | _, _ => false

def sameItems : List Value → List Value → Bool
  | [], [] => true
  | v :: vs, w :: ws => same v w && sameItems vs ws
  | _, _ => false

/-- Whether every member of the first list has an equal under its key in the second. -/
def sameMembers : List (String × Value) → List (String × Value) → Bool
  | [], _ => true
  | (k, v) :: vs, ws =>
    (match lookupEntry k ws with
      | some w => same v w
      | none => false) && sameMembers vs ws

end

end Value

end NodeSchema
