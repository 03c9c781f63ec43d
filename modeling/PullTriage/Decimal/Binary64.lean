/-!
# Binary Floating Point Numbers

A floating point setting is a 64-bit binary number. It is kept as its bits,
and every operation on it is exact arithmetic on natural numbers followed by
one rounding, so nothing depends on the arithmetic of the machine.

A magnitude, that is a number without its sign, is again a natural number:
the low 63 bits. Magnitudes are ordered as the numbers they stand for, and
the first one past the finite numbers is `firstInfinite`. A finite magnitude
stands for a mantissa times a power of two.

## Main definitions

* `Binary64`: A floating point number by its bits.
* `roundedQuotient`: A quotient rounded to the nearest whole number.
* `nearestMagnitude?`: The magnitude nearest to a quotient.
* `mantissa`: The whole number behind a magnitude.
* `exponent`: The power of two that it is multiplied by.
* `ratio`: A magnitude as a quotient.
-/

namespace PullTriage

/-- A floating point number, given by its sign bit, eleven bits of exponent
    and 52 bits of fraction. -/
structure Binary64 where
  /-- The 64 bits. -/
  bits : UInt64
deriving DecidableEq, Repr

namespace Binary64

/-- The number with a sign and a magnitude. -/
def ofMagnitude (negative : Bool) (magnitude : Nat) : Binary64 :=
  ⟨UInt64.ofNat (if negative then Nat.pow 2 63 + magnitude else magnitude)⟩

/-- Whether the sign bit is set. -/
def isNegative (x : Binary64) : Bool :=
  Nat.pow 2 63 ≤ x.bits.toNat

/-- The bits without the sign. -/
def magnitude (x : Binary64) : Nat :=
  x.bits.toNat % Nat.pow 2 63

/-- The magnitude of infinity, which no finite number reaches. -/
def firstInfinite : Nat :=
  2047 * Nat.pow 2 52

/-- The whole number nearest to `num / den`, of two the even one. -/
def roundedQuotient (num den : Nat) : Nat :=
  let below := num / den
  let rest := num % den
  if den < 2 * rest ∨ (2 * rest = den ∧ below % 2 = 1) then below + 1 else below

/-- The greatest `k` with `2 ^ k ≤ num / den`, for positive arguments. The
    difference of the two bit lengths is right or one too large. -/
def floorLog2 (num den : Nat) : Int :=
  let k : Int := (num.log2 : Int) - den.log2
  if num * Nat.pow 2 (-k).toNat < den * Nat.pow 2 k.toNat then k - 1 else k

/-- The magnitude nearest to `num / den`, of two the even one, or `none` if
    it is not finite. The unit of the rounding is 52 bits below the leading
    bit, but never below the least unit, `2 ^ -1074`. -/
def nearestMagnitude? (num den : Nat) : Option Nat :=
  if num = 0 then some 0
  else
    let unit : Int := max (floorLog2 num den - 52) (-1074)
    let m := roundedQuotient (num * Nat.pow 2 (-unit).toNat) (den * Nat.pow 2 unit.toNat)
    -- A mantissa that rounds up to the next power of two carries into the
    -- exponent, which is what adding it to the exponent bits does.
    let magnitude :=
      if m < Nat.pow 2 52 then m
      else (unit + 1075).toNat * Nat.pow 2 52 + (m - Nat.pow 2 52)
    if magnitude < firstInfinite then some magnitude else none

/-- The whole number that a power of two multiplies. -/
def mantissa (magnitude : Nat) : Nat :=
  if magnitude < Nat.pow 2 52 then magnitude else magnitude % Nat.pow 2 52 + Nat.pow 2 52

/-- The power of two that the mantissa is multiplied by. -/
def exponent (magnitude : Nat) : Int :=
  if magnitude < Nat.pow 2 52 then -1074 else (magnitude / Nat.pow 2 52 : Nat) - 1075

/-- A finite magnitude as a quotient of whole numbers. -/
def ratio (magnitude : Nat) : Nat × Nat :=
  (mantissa magnitude * Nat.pow 2 (exponent magnitude).toNat, Nat.pow 2 (-exponent magnitude).toNat)

end Binary64

end PullTriage
