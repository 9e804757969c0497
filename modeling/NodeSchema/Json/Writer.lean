import NodeSchema.Decimal.Text
import NodeSchema.Text.Quoted
import NodeSchema.Value.Basic
/-!
# Writing JSON

The JSON text of a value, in printable ASCII alone. Inside a string the quote, the backslash and
five control characters have short escapes; every other character outside the printable ASCII range
is written as its 16-bit units, two of them for a character beyond U+FFFF.
-/

namespace NodeSchema.Json

def specialNames : SpecialNames where
  nan := "NaN"
  infinity := "Infinity"

def unitEscape (n : Nat) : List Char := '\\' :: 'u' :: Text.hexDigits 4 n

def stringChar (c : Char) : List Char :=
  if c = '"' ∨ c = '\\' then ['\\', c]
  else if c = '\n' then ['\\', 'n']
  else if c = '\r' then ['\\', 'r']
  else if c = '\t' then ['\\', 't']
  else if c.toNat = 0x08 then ['\\', 'b']
  else if c.toNat = 0x0C then ['\\', 'f']
  else if 0x20 ≤ c.toNat ∧ c.toNat < 0x7F then [c]
  else if c.toNat < 0x10000 then unitEscape c.toNat
  else
    unitEscape (0xD800 + (c.toNat - 0x10000) / 0x400) ++
      unitEscape (0xDC00 + (c.toNat - 0x10000) % 0x400)

def stringChars (s : List Char) : List Char := '"' :: (s.flatMap stringChar ++ ['"'])

/-- A text as a JSON string, quotes included. -/
def string (s : String) : String := String.ofList (stringChars s.toList)

mutual

/-- The JSON text of a value on one line. -/
def write : Value → String
  | .null => "null"
  | .bool true => "true"
  | .bool false => "false"
  | .int n => toString n
  | .float x => x.text specialNames
  | .str s => string s
  | .list items => "[" ++ writeItems items ++ "]"
  | .object members => "\x7b" ++ writeMembers members ++ "\x7d"

def writeItems : List Value → String
  | [] => ""
  | [v] => write v
  | v :: w :: rest => write v ++ ", " ++ writeItems (w :: rest)

def writeMembers : List (String × Value) → String
  | [] => ""
  | [(k, v)] => string k ++ ": " ++ write v
  | (k, v) :: e :: rest => string k ++ ": " ++ write v ++ ", " ++ writeMembers (e :: rest)

end

end NodeSchema.Json
