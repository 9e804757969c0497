import NodeSchema.Text.Printable
/-!
# Quoted text

The quoted form of a text, as it stands in messages and dumps. Single quotes are the rule; double
quotes are used when the text holds a single quote and no double one. A backslash stands before the
quote in use and before a backslash; line feed, carriage return and tab have letters of their own;
every other character that is not printable is written as a hexadecimal code of two, four or eight
digits, whichever is the least that holds it.
-/

namespace NodeSchema.Text

/-- The least significant `width` hexadecimal digits of `n`, in lower case. -/
def hexDigits : Nat → Nat → List Char
  | 0, _ => []
  | width + 1, n => hexDigits width (n / 16) ++ [Nat.digitChar (n % 16)]

/-- The quote that a text is put in. -/
def quoteFor (s : List Char) : Char :=
  if s.contains '\'' && !s.contains '"' then '"' else '\''

/-- A character inside quotes of the given kind. -/
def quotedChar (quote c : Char) : List Char :=
  if c = quote ∨ c = '\\' then ['\\', c]
  else if c = '\n' then ['\\', 'n']
  else if c = '\r' then ['\\', 'r']
  else if c = '\t' then ['\\', 't']
  else if isPrintable c then [c]
  else if c.toNat < 0x100 then '\\' :: 'x' :: hexDigits 2 c.toNat
  else if c.toNat < 0x10000 then '\\' :: 'u' :: hexDigits 4 c.toNat
  else '\\' :: 'U' :: hexDigits 8 c.toNat

def quotedChars (s : List Char) : List Char :=
  quoteFor s :: (s.flatMap (quotedChar (quoteFor s)) ++ [quoteFor s])

def quoted (s : String) : String := String.ofList (quotedChars s.toList)

end NodeSchema.Text
