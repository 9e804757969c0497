import NodeSchema.Decimal.Binary
/-!
# The shortest decimal that reads back

Among the decimals that are read as a given binary number, `Binary64.shortest` selects one with the
fewest digits, and of those the nearest to the number. All comparisons are between naturals, after
multiplying out the powers of two and ten.

The reals that are read as `x` form an interval around it. It reaches halfway to each neighbour, and
its ends belong to it exactly when the significand is even. A grid of decimals with `n` digits has a
point in that interval only if one of the two grid points around `x` lies in it, so it is enough to
test these two on one grid after the other.
-/

namespace NodeSchema

/-- The number `digits * 10 ^ exponent`. -/
structure Decimal where
  digits : Nat
  exponent : Int
  deriving DecidableEq, Repr

namespace Decimal

/-- How `d` compares with `n * 2 ^ j`. -/
def compareBinary (d : Decimal) (n : Nat) (j : Int) : Ordering :=
  compare (d.digits * Nat.pow 10 d.exponent.toNat * Nat.pow 2 (-j).toNat)
    (n * Nat.pow 2 j.toNat * Nat.pow 10 (-d.exponent).toNat)

/-- Moves trailing zeros of the digits into the exponent; `fuel` bounds their number. -/
def stripZeros : Nat → Decimal → Decimal
  | 0, d => d
  | fuel + 1, d =>
    if d.digits % 10 = 0 ∧ d.digits ≠ 0 then
      stripZeros fuel ⟨d.digits / 10, d.exponent + 1⟩
    else d

end Decimal

namespace Binary64

/-- Whether `d` lies among the reals that are read as the finite positive number `x`. -/
def readsBack (x : Binary64) (d : Decimal) : Bool :=
  let below := if x.narrowBelow then 4 * x.significand - 1 else 4 * x.significand - 2
  let above := 4 * x.significand + 2
  let closed := x.significand % 2 == 0
  let fromBelow := d.compareBinary below (x.scale - 2)
  let fromAbove := d.compareBinary above (x.scale - 2)
  (fromBelow == .gt || (closed && fromBelow == .eq)) &&
    (fromAbove == .lt || (closed && fromAbove == .eq))

/-- The least `k` with `x < 10 ^ k`, for a finite positive number. Every such number exceeds
`10 ^ (-400)`, so scaling by `10 ^ 400` keeps its leading digit above the point. -/
def leadingPower (x : Binary64) : Int :=
  let (num, den) := x.magnitude
  (Nat.toDigits 10 (num * Nat.pow 10 400 / den)).length - 400

/-- The grid point just below `x` (or equal to it) among the multiples of `10 ^ e`. -/
def gridBelow (x : Binary64) (e : Int) : Nat :=
  let (num, den) := x.magnitude
  num * Nat.pow 10 (-e).toNat / (den * Nat.pow 10 e.toNat)

/-- Of the two grid points around `x` the one that reads back; if both do, the nearer, and of two
equally near ones the even one. -/
def onGrid? (x : Binary64) (e : Int) : Option Decimal :=
  let lower : Decimal := ⟨x.gridBelow e, e⟩
  let upper : Decimal := ⟨x.gridBelow e + 1, e⟩
  match x.readsBack lower, x.readsBack upper with
  | false, false => none
  | true, false => some lower
  | false, true => some upper
  | true, true =>
    match (⟨2 * x.gridBelow e + 1, e⟩ : Decimal).compareBinary (2 * x.significand) x.scale with
    | .gt => some lower
    | .lt => some upper
    | .eq => some (if x.gridBelow e % 2 = 0 then lower else upper)

/-- The first grid with a decimal that reads back, from `n` digits on. -/
def shortestFrom (x : Binary64) (leading : Int) : Nat → Nat → Option Decimal
  | 0, _ => none
  | fuel + 1, n =>
    match x.onGrid? (leading - n) with
    | some d => some d
    | none => shortestFrom x leading fuel (n + 1)

/-- A decimal with the fewest digits that is read as the finite positive number `x`. Seventeen
digits are enough for every number; failing that, the exact value of `x` would be given. -/
def shortest (x : Binary64) : Decimal :=
  match x.shortestFrom x.leadingPower 17 1 with
  | some d => d.stripZeros 20
  | none =>
    ⟨x.significand * Nat.pow 2 x.scale.toNat * Nat.pow 5 (-x.scale).toNat,
      -((-x.scale).toNat : Int)⟩

end Binary64

end NodeSchema
