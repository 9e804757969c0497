/-!
# Binary floating point numbers

A `Binary64` is one of the 64-bit binary floating point numbers, held as its bit pattern. Every
question about it is answered from the three fields of the pattern with exact integer arithmetic:
a finite number has the magnitude `significand * 2 ^ scale`.
-/

namespace NodeSchema

/-- A 64-bit binary floating point number. -/
structure Binary64 where
  -- The bit pattern: sign, eleven bits of exponent, fifty-two bits of fraction.
  bits : UInt64
  deriving DecidableEq, Inhabited, Repr

namespace Binary64

/-! ## 1. The fields of the pattern -/

def isNegative (x : Binary64) : Bool := x.bits >>> 63 == 1

def exponentField (x : Binary64) : Nat := ((x.bits >>> 52) &&& 0x7FF).toNat

def fractionField (x : Binary64) : Nat := (x.bits &&& 0xFFFFFFFFFFFFF).toNat

def isNaN (x : Binary64) : Bool := x.exponentField == 0x7FF && x.fractionField != 0

def isInfinite (x : Binary64) : Bool := x.exponentField == 0x7FF && x.fractionField == 0

/-- Whether the number is zero, of either sign. -/
def isZero (x : Binary64) : Bool := x.exponentField == 0 && x.fractionField == 0

/-- The integer significand of a finite number. -/
def significand (x : Binary64) : Nat :=
  if x.exponentField = 0 then x.fractionField else Nat.pow 2 52 + x.fractionField

/-- The power of two that the significand of a finite number is scaled by. -/
def scale (x : Binary64) : Int :=
  if x.exponentField = 0 then -1074 else (x.exponentField : Int) - 1075

/-- Whether the neighbour below is only half as far away as the neighbour above. -/
def narrowBelow (x : Binary64) : Bool := x.fractionField == 0 && x.exponentField > 1

/-! ## 2. Integers among the numbers -/

/-- The magnitude of a finite number as a fraction of two naturals. -/
def magnitude (x : Binary64) : Nat × Nat :=
  (x.significand * Nat.pow 2 x.scale.toNat, Nat.pow 2 (-x.scale).toNat)

/-- The integer that a finite number is equal to, if it is one. -/
def toInt? (x : Binary64) : Option Int :=
  let (num, den) := x.magnitude
  if num % den = 0 then
    some (if x.isNegative then -((num / den : Nat) : Int) else ((num / den : Nat) : Int))
  else none

/-! ## 3. Reading a decimal -/

/-- The same number with the sign bit set. -/
def negate (x : Binary64) : Binary64 := ⟨x.bits ||| 0x8000000000000000⟩

def nan : Binary64 := ⟨0x7FF8000000000000⟩

def infinity : Binary64 := ⟨0x7FF0000000000000⟩

/-- The number nearest to `digits * 10 ^ exponent`, a tie going to the even neighbour.
A decimal whose leading digit lies above `10 ^ 310` is infinite, one below `10 ^ (-400)` is zero;
both are settled before any power of ten is computed. -/
def ofDecimal (digits : Nat) (exponent : Int) : Binary64 :=
  let leading : Int := (Nat.toDigits 10 digits).length + exponent
  if digits = 0 then ⟨0⟩
  else if leading > 310 then infinity
  else if leading < -400 then ⟨0⟩
  else ⟨(Float.ofScientific digits (exponent < 0) exponent.natAbs).toBits⟩

end Binary64

end NodeSchema
