import PullTriage.Decimal.Binary64

/-!
# The Shortest Decimal of a Floating Point Number

A floating point number is written with the fewest significant digits that
read back as the same number, and among those with the digits nearest to it.

The numbers that read back as a given one form an interval around it, whose
ends lie halfway to its neighbours and belong to it when its mantissa is
even. A grid of `n` significant digits has a point in that interval exactly
when one of the two grid points next to the number lies in it, so testing
those two for one, two, … up to seventeen digits finds the shortest decimal.
All comparisons are between whole numbers.

The digits are then written in one of two forms. Numbers from `10 ^ -5` to
below `10 ^ 16` are positional, with at least one digit on either side of the
point, and all others have an exponent with a sign.

## Main definitions

* `Digits`: Significant digits and the power of ten of the last one.
* `shortest`: The shortest decimal of a finite magnitude.
* `compact`: The text of a number, with an exponent where it is long.
-/

namespace PullTriage

namespace Decimal

/-- The number `coefficient * 10 ^ power`. -/
structure Digits where
  /-- The significant digits as one whole number. -/
  coefficient : Nat
  /-- The power of ten that the last digit counts. -/
  power : Int
deriving DecidableEq, Repr

/-- The greatest `k` with `10 ^ k ≤ num / den`, for positive arguments. -/
def floorLog10 (num den : Nat) : Int :=
  if den ≤ num then ((Nat.toDigits 10 (num / den)).length : Int) - 1
  else
    let k := (Nat.toDigits 10 (den / num)).length - 1
    if den ≤ num * Nat.pow 10 k then -(k : Int) else -(k : Int) - 1

/-- How `a * 10 ^ s` compares with `b * 2 ^ q`. -/
def compareScaled (a : Nat) (s : Int) (b : Nat) (q : Int) : Ordering :=
  compare (a * Nat.pow 10 s.toNat * Nat.pow 2 (-q).toNat)
    (b * Nat.pow 2 q.toNat * Nat.pow 10 (-s).toNat)

/-- Whether `a * 10 ^ s` reads back as the finite magnitude. In units of a
    quarter of the last place the interval reaches two up and two down, but
    only one down from a power of two, below which the places are half as
    wide. -/
def readsBack (magnitude a : Nat) (s : Int) : Bool :=
  let m := Binary64.mantissa magnitude
  let q := Binary64.exponent magnitude - 2
  let down := if m = Nat.pow 2 52 ∧ Nat.pow 2 53 ≤ magnitude then 1 else 2
  let low := compareScaled a s (4 * m - down) q
  let high := compareScaled a s (4 * m + 2) q
  if m % 2 = 0 then low != .lt && high != .gt else low == .gt && high == .lt

/-- Of the two points `a` and `a + 1` of the grid of `10 ^ s` around the
    magnitude, the nearer one that reads back. A tie goes to the even one. -/
def nearestOnGrid? (magnitude a : Nat) (s : Int) : Option Nat :=
  let below := readsBack magnitude a s
  let above := readsBack magnitude (a + 1) s
  if below && above then
    match compareScaled (2 * a + 1) s (2 * Binary64.mantissa magnitude)
        (Binary64.exponent magnitude) with
    | .gt => some a
    | .lt => some (a + 1)
    | .eq => some (if a % 2 = 0 then a else a + 1)
  else if below then some a
  else if above then some (a + 1)
  else none

/-- The first grid with a hit among those of `17 - left` digits and more. -/
def firstHit (magnitude num den : Nat) (top : Int) : Nat → Digits
  | 0 => ⟨num / den, 0⟩
  | left + 1 =>
    let s := top - (16 - left : Int)
    match nearestOnGrid? magnitude (num * Nat.pow 10 (-s).toNat / (den * Nat.pow 10 s.toNat)) s with
    | some a => ⟨a, s⟩
    | none => firstHit magnitude num den top left

/-- The shortest decimal of a finite magnitude. -/
def shortest (magnitude : Nat) : Digits :=
  if magnitude = 0 then ⟨0, 0⟩
  else
    let (num, den) := Binary64.ratio magnitude
    firstHit magnitude num den (floorLog10 num den) 17

/-- The significant digits without trailing zeros, and the power of ten of
    the first one. -/
def Digits.normal (d : Digits) : List Char × Int :=
  let all := Nat.toDigits 10 d.coefficient
  let kept := (all.reverse.dropWhile (· == '0')).reverse
  (if kept.isEmpty then ['0'] else kept, d.power + (all.length : Int) - 1)

/-- The digits in positional notation, with a digit on both sides of the
    point. `top` is the power of ten of the first digit. -/
def positional (digits : List Char) (top : Int) : List Char :=
  if top < 0 then '0' :: '.' :: (List.replicate (-top - 1).toNat '0' ++ digits)
  else
    let size := top.toNat + 1
    let whole := digits.take size ++ List.replicate (size - digits.length) '0'
    let fraction := digits.drop size
    whole ++ '.' :: (if fraction.isEmpty then ['0'] else fraction)

/-- The digits with one before the point and an exponent that has a sign. -/
def scientific (digits : List Char) (top : Int) : List Char :=
  let fraction := digits.drop 1
  digits.take 1 ++ (if fraction.isEmpty then [] else '.' :: fraction) ++
    'e' :: (if top < 0 then '-' else '+') :: Nat.toDigits 10 top.natAbs

/-- The text of a number as a JSON value. -/
def compact (x : Binary64) : List Char :=
  let (digits, top) := (shortest x.magnitude).normal
  let body := if x.magnitude = 0 ∨ (-5 ≤ top ∧ top < 16) then positional digits top
    else scientific digits top
  if x.isNegative then '-' :: body else body

end Decimal

end PullTriage
