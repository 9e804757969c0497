import NodeSchema.Decimal.Shortest
/-!
# The text of a floating point number

Numbers are written with the fewest digits that identify them: positionally when the leading digit
stands between `10 ^ (-4)` and `10 ^ 15`, otherwise with an exponent of at least two digits and a
sign. A positional number always shows a digit on each side of its point. What is written for the
infinities and for not-a-number is up to the format.
-/

namespace NodeSchema

/-- The words for the patterns that have no decimal digits. -/
structure SpecialNames where
  nan : String
  infinity : String

namespace Decimal

/-- An exponent with its sign and at least two digits. -/
def exponentText (e : Int) : String :=
  let digits := toString e.natAbs
  (if e < 0 then "e-" else "e+") ++ (if e.natAbs < 10 then "0" ++ digits else digits)

/-- The text of a decimal with non-zero digits. -/
def text (d : Decimal) : String :=
  let digits := Nat.toDigits 10 d.digits
  let point : Int := digits.length + d.exponent
  if point ≤ -4 ∨ 16 < point then
    let fraction := digits.drop 1
    String.ofList (digits.take 1) ++
      (if fraction.isEmpty then "" else "." ++ String.ofList fraction) ++ exponentText (point - 1)
  else if point ≤ 0 then
    "0." ++ String.ofList (List.replicate (-point).toNat '0' ++ digits)
  else if digits.length ≤ point.toNat then
    String.ofList (digits ++ List.replicate (point.toNat - digits.length) '0') ++ ".0"
  else
    String.ofList (digits.take point.toNat) ++ "." ++ String.ofList (digits.drop point.toNat)

end Decimal

namespace Binary64

def text (special : SpecialNames) (x : Binary64) : String :=
  if x.isNaN then special.nan
  else
    (if x.isNegative then "-" else "") ++
      if x.isInfinite then special.infinity
      else if x.isZero then "0.0"
      else x.shortest.text

end Binary64

end NodeSchema
