import PullTriage.Decimal.Binary64

/-!
# Reading Decimals

Two rules turn a decimal `m * 10 ^ e` into a floating point number.

The first is exact: the nearest number, of two the even one. A number past
the finite ones reads as infinity, which no setting can hold.

The second is the one that JSON numbers are read with. The digits that fit
into 64 bits are rounded to a floating point number once, and that number is
multiplied by a power of ten, or divided by one, in floating point. Two
roundings make it differ from the first rule in the last bit of some numbers
of many digits. No power of ten past `10 ^ 308` exists as a factor: a larger
one is out of range, and a larger divisor is applied in steps of `10 ^ 308`.

## Main definitions

* `nearest?`: The magnitude nearest to a decimal.
* `product?`: The magnitude of a product of two magnitudes.
* `quotient`: The magnitude of a quotient of two magnitudes.
* `scaled?`: A whole number times a power of ten, in floating point.
-/

namespace PullTriage

namespace Decimal

/-- The magnitude nearest to `m * 10 ^ e`, or `none` if that is infinite. A
    decimal of more than 310 digits before the point is infinite, and one
    with more than 330 zeros behind it is nothing, so that no huge power is
    ever computed. -/
def nearest? (m : Nat) (e : Int) : Option Nat :=
  let digits : Int := (Nat.toDigits 10 m).length
  if m = 0 then some 0
  else if 310 < digits + e then none
  else if digits + e < -330 then some 0
  else Binary64.nearestMagnitude? (m * Nat.pow 10 e.toNat) (Nat.pow 10 (-e).toNat)

/-- The magnitude nearest to the product of two finite ones, or `none` if it
    is infinite. -/
def product? (x y : Nat) : Option Nat :=
  let (a, b) := Binary64.ratio x
  let (c, d) := Binary64.ratio y
  Binary64.nearestMagnitude? (a * c) (b * d)

/-- The magnitude nearest to the quotient of two finite ones, the second at
    least one, so that the quotient is finite. -/
def quotient (x y : Nat) : Nat :=
  let (a, b) := Binary64.ratio x
  let (c, d) := Binary64.ratio y
  (Binary64.nearestMagnitude? (a * d) (b * c)).getD 0

/-- The magnitude of `10 ^ k`, for `k` up to 308. -/
def powerOfTen (k : Nat) : Nat :=
  (Binary64.nearestMagnitude? (Nat.pow 10 k) 1).getD 0

/-- A finite magnitude below `2 ^ 65` divided by `10 ^ k`, in steps of
    `10 ^ 308` and one of the rest. Two steps leave nothing of such a
    magnitude, so a third changes nothing and no more are taken. -/
def dividedByPower (x k : Nat) : Nat :=
  let steps := (k - 1) / 308
  quotient (Nat.repeat (fun y => quotient y (powerOfTen 308)) (min steps 3) x)
    (powerOfTen (k - 308 * steps))

/-- The whole number `m`, which fits into 64 bits, times `10 ^ e` in floating
    point, or `none` if that is out of range. -/
def scaled? (m : Nat) (e : Int) : Option Nat :=
  let x := (Binary64.nearestMagnitude? m 1).getD 0
  if e < 0 then some (dividedByPower x (-e).toNat)
  else if e ≤ 308 then product? x (powerOfTen e.toNat)
  else if x = 0 then some 0 else none

end Decimal

end PullTriage
