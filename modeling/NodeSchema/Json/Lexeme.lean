import NodeSchema.Decimal.Binary
/-!
# JSON lexemes

The lexemes of a JSON text and how one is recognised at the front of a list of characters. Besides
the standard forms the words `NaN`, `Infinity` and `-Infinity` are numbers. A recogniser returns the
lexeme together with the number of characters that follow its first one. What starts no lexeme is
a lexeme of its own, so that the reader can say what it expected in its place.
-/

namespace NodeSchema.Json

/-- A defect inside a string or a number. -/
inductive Defect where
  | unterminated
  | controlCharacter
  | badEscape
  | badUnicodeEscape
  -- An integer has more digits than are converted; their number is given.
  | tooManyDigits (count : Nat)
  deriving DecidableEq, Repr

inductive Lexeme where
  | openList
  | closeList
  | openObject
  | closeObject
  | colon
  | comma
  | text (s : String)
  | null
  | bool (b : Bool)
  | int (n : Int)
  -- A number with a fraction or an exponent, or one of the special words.
  | float (x : Binary64)
  -- A string or number with a defect, `offset` characters after its first one.
  | defective (defect : Defect) (offset : Nat)
  | junk
  deriving DecidableEq, Repr

/-! ## 1. Strings -/

def hexValue? (c : Char) : Option Nat :=
  if '0' ≤ c ∧ c ≤ '9' then some (c.toNat - '0'.toNat)
  else if 'a' ≤ c ∧ c ≤ 'f' then some (c.toNat - 'a'.toNat + 10)
  else if 'A' ≤ c ∧ c ≤ 'F' then some (c.toNat - 'A'.toNat + 10)
  else none

def unitValue? (a b c d : Char) : Option Nat := do
  let w ← hexValue? a
  let x ← hexValue? b
  let y ← hexValue? c
  let z ← hexValue? d
  pure (((w * 16 + x) * 16 + y) * 16 + z)

/-- The character that a one-letter escape stands for. -/
def escapeValue? : Char → Option Char
  | '"' => some '"'
  | '\\' => some '\\'
  | '/' => some '/'
  | 'b' => some (Char.ofNat 0x08)
  | 'f' => some (Char.ofNat 0x0C)
  | 'n' => some '\n'
  | 'r' => some '\r'
  | 't' => some '\t'
  | _ => none

/-- The character of a 16-bit unit or of a larger code point. A unit that is half of a pair and
stands alone has no character, and texts here consist of characters. It is replaced, so that two
texts which differ in such units alone become one, and a text with one of them can be written to a
file. What is said about texts that were read is thus restricted to those without such units. -/
def charOfUnit (n : Nat) : Char :=
  if 0xD800 ≤ n ∧ n < 0xE000 then Char.ofNat 0xFFFD else Char.ofNat n

/-- Joins the two halves of a pair of units into one character. -/
def joinUnits : List Nat → List Char
  | [] => []
  | [n] => [charOfUnit n]
  | m :: n :: rest =>
    if 0xD800 ≤ m ∧ m < 0xDC00 ∧ 0xDC00 ≤ n ∧ n < 0xE000 then
      Char.ofNat (0x10000 + (m - 0xD800) * 0x400 + (n - 0xDC00)) :: joinUnits rest
    else charOfUnit m :: joinUnits (n :: rest)

/-- Reads a string from behind its opening quote. `n` counts the characters since that quote and
`done` holds the units read so far, last first. -/
def scanString (n : Nat) (done : List Nat) : List Char → Lexeme × Nat
  | [] => (.defective .unterminated 0, n)
  | '"' :: _ => (.text (String.ofList (joinUnits done.reverse)), n + 1)
  | '\\' :: 'u' :: a :: b :: c :: d :: rest =>
    match unitValue? a b c d, rest with
    | some unit, _ :: _ => scanString (n + 6) (unit :: done) rest
    | _, _ => (.defective .badUnicodeEscape (n + 2), n)
  | '\\' :: 'u' :: _ => (.defective .badUnicodeEscape (n + 2), n)
  | '\\' :: c :: rest =>
    match escapeValue? c with
    | some e => scanString (n + 2) (e.toNat :: done) rest
    | none => (.defective .badEscape (n + 1), n)
  | ['\\'] => (.defective .unterminated 0, n)
  | c :: rest =>
    if c.toNat < 0x20 then (.defective .controlCharacter (n + 1), n)
    else scanString (n + 1) (c.toNat :: done) rest

/-! ## 2. Numbers -/

def digitsValue (digits : List Char) : Nat :=
  digits.foldl (fun n c => n * 10 + (c.toNat - '0'.toNat)) 0

/-- The digits of an integer part: a zero alone, or a run that starts with another digit. -/
def integerPart : List Char → List Char
  | '0' :: _ => ['0']
  | cs => cs.takeWhile Char.isDigit

/-- The digits behind a decimal point, if a point and a digit stand here. -/
def fractionPart : List Char → List Char
  | '.' :: cs => cs.takeWhile Char.isDigit
  | _ => []

/-- A signed exponent and the number of its characters, if a complete one stands here. -/
def exponentPart : List Char → Option (Int × Nat)
  | mark :: cs =>
    if mark = 'e' ∨ mark = 'E' then
      let (sign, rest, skipped) : Int × List Char × Nat :=
        match cs with
        | '+' :: r => (1, r, 2)
        | '-' :: r => (-1, r, 2)
        | r => (1, r, 1)
      let digits := rest.takeWhile Char.isDigit
      if digits.isEmpty then none
      else some (sign * (digitsValue digits : Int), skipped + digits.length)
    else none
  | [] => none

/-- Reads an unsigned number; `limit` is the greatest number of digits of an integer. Returns the
lexeme and the number of its characters, or nothing if no digit stands here. -/
def scanNumber (limit : Option Nat) (negative : Bool) (cs : List Char) : Option (Lexeme × Nat) :=
  let whole := integerPart cs
  if whole.isEmpty then none
  else
    let afterWhole := cs.drop whole.length
    let fraction := fractionPart afterWhole
    let fractionLength := if fraction.isEmpty then 0 else fraction.length + 1
    let exponent := exponentPart (afterWhole.drop fractionLength)
    let exponentLength := (exponent.map Prod.snd).getD 0
    let length := whole.length + fractionLength + exponentLength
    if fraction.isEmpty ∧ exponent.isNone then
      match limit with
      | some most =>
        if whole.length > most then some (.defective (.tooManyDigits whole.length) 0, length)
        else
          let n : Int := digitsValue whole
          some (.int (if negative then -n else n), length)
      | none =>
        let n : Int := digitsValue whole
        some (.int (if negative then -n else n), length)
    else
      let power := (exponent.map Prod.fst).getD 0 - (fraction.length : Int)
      let x := Binary64.ofDecimal (digitsValue (whole ++ fraction)) power
      some (.float (if negative then x.negate else x), length)

/-! ## 3. One lexeme -/

def startsWith (word : String) (cs : List Char) : Bool := word.toList.isPrefixOf cs

/-- The lexeme that starts with `c` and goes on with a part of `rest`, and the number of characters
that it takes from `rest`. -/
def lexeme (limit : Option Nat) (c : Char) (rest : List Char) : Lexeme × Nat :=
  match c with
  | '[' => (.openList, 0)
  | ']' => (.closeList, 0)
  | '\x7b' => (.openObject, 0)
  | '\x7d' => (.closeObject, 0)
  | ':' => (.colon, 0)
  | ',' => (.comma, 0)
  | '"' => scanString 0 [] rest
  | 'n' => if startsWith "ull" rest then (.null, 3) else (.junk, 0)
  | 't' => if startsWith "rue" rest then (.bool true, 3) else (.junk, 0)
  | 'f' => if startsWith "alse" rest then (.bool false, 4) else (.junk, 0)
  | 'N' => if startsWith "aN" rest then (.float .nan, 2) else (.junk, 0)
  | 'I' => if startsWith "nfinity" rest then (.float .infinity, 7) else (.junk, 0)
  | '-' =>
    if startsWith "Infinity" rest then (.float Binary64.infinity.negate, 8)
    else (scanNumber limit true rest).getD (.junk, 0)
  | _ =>
    match scanNumber limit false (c :: rest) with
    | some (number, length) => (number, length - 1)
    | none => (.junk, 0)

end NodeSchema.Json
