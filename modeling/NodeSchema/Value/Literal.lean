import NodeSchema.Value.Inline
/-!
# Literal types

A value as a literal in a type expression. Numbers without a fraction are written without one as
long as they lie below `10 ^ 21`; texts stand in single quotes, with escapes for the quote, the
backslash, line feed, carriage return and tab. A list or an object stands for its text on one line.
-/

namespace NodeSchema.Value

def literalNames : SpecialNames where
  nan := "NaN"
  infinity := "Infinity"

def floatLiteral (x : Binary64) : String :=
  if x.isNaN || x.isInfinite then x.text literalNames
  else
    match x.toInt? with
    | some n => if n.natAbs < Nat.pow 10 21 then toString n else x.text literalNames
    | none => x.text literalNames

def literalChar (c : Char) : List Char :=
  if c = '\\' then ['\\', '\\']
  else if c = '\'' then ['\\', '\'']
  else if c = '\n' then ['\\', 'n']
  else if c = '\r' then ['\\', 'r']
  else if c = '\t' then ['\\', 't']
  else [c]

def literalText (s : String) : String :=
  String.ofList ('\'' :: (s.toList.flatMap literalChar ++ ['\'']))

def literal : Value → String
  | .null => "null"
  | .bool true => "true"
  | .bool false => "false"
  | .int n => toString n
  | .float x => floatLiteral x
  | .str s => literalText s
  | .list items => literalText (inline (.list items))
  | .object members => literalText (inline (.object members))

end NodeSchema.Value
