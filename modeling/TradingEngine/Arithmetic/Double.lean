/-! # Doubles as exact numbers

A finite double is m * 2^q, so it can be compared with a whole number, cut off and divided without
rounding twice. `ofRatio` goes the other way: it gives the double nearest to a rational, and of two
equally near ones the one with the even significand.
-/

namespace TradingEngine.Double

/-- The magnitude of a finite double, as m * 2^q. -/
structure Parts where
  significand : Nat
  power : Int

/-- The parts of the magnitude of a finite double. -/
def parts (x : Float) : Parts :=
  let bits := x.toBits.toNat
  let field : Nat := bits / Nat.pow 2 52 % 2048
  let fraction : Nat := bits % Nat.pow 2 52
  if field = 0 then ⟨fraction, -1074⟩ else ⟨Nat.pow 2 52 + fraction, Int.ofNat field - 1075⟩

def isNegative (x : Float) : Bool := x.toBits.toNat / Nat.pow 2 63 == 1

/-- Whether a double is a number of finite size. -/
def isFinite (x : Float) : Bool := !x.isNaN && !x.isInf

/-- A whole number with the sign of a double. -/
def signed (x : Float) (n : Nat) : Int := if isNegative x then -(n : Int) else n

/-- A finite double as a fraction: its numerator and its denominator. -/
def toRatio (x : Float) : Int × Nat :=
  let p := parts x
  if 0 ≤ p.power then (signed x (p.significand * Nat.pow 2 p.power.toNat), 1)
  else (signed x p.significand, Nat.pow 2 (-p.power).toNat)

/-- The whole number that a double equals, if its fraction is zero. -/
def whole? (x : Float) : Option Int :=
  if !isFinite x then none
  else
    let (num, den) := toRatio x
    if num % den = 0 then some (num / den) else none

/-- A finite double without its fraction. -/
def truncated (x : Float) : Int :=
  let (num, den) := toRatio x
  num.tdiv den

/-- How a double compares with a whole number; NaN does not. -/
def compareInt? (x : Float) (n : Int) : Option Ordering :=
  if x.isNaN then none
  else if x.isInf then some (if isNegative x then .lt else .gt)
  else
    let (num, den) := toRatio x
    some (compare num (n * den))

/-- A quotient rounded to the nearest whole number, a half to the even one. -/
def roundDiv (num den : Nat) : Nat :=
  let quotient := num / den
  let twice := 2 * (num % den)
  if twice > den || (twice = den && quotient % 2 = 1) then quotient + 1 else quotient

/-- The exponent of the last bit of the double nearest to a positive rational. -/
def lastPower (num den : Nat) : Int :=
  let guess : Int := (num.log2 : Int) - den.log2 - 53
  let fits (q : Int) : Bool :=
    if 0 ≤ q then num < Nat.pow 2 53 * (den * Nat.pow 2 q.toNat)
    else num * Nat.pow 2 (-q).toNat < Nat.pow 2 53 * den
  max (-1074) (if fits guess then guess else guess + 1)

/-- The double nearest to a rational with a positive denominator; infinite, if all are too small. -/
def ofRatio (num den : Nat) : Float :=
  if num = 0 then 0.0
  else
    let q := lastPower num den
    let significand :=
      if 0 ≤ q then roundDiv num (den * Nat.pow 2 q.toNat)
      else roundDiv (num * Nat.pow 2 (-q).toNat) den
    if q > 1000 then 1.0 / 0.0 else (UInt64.ofNat significand).toFloat.scaleB q

/-- The double nearest to a whole number, if there is a finite one. -/
def ofInt? (n : Int) : Option Float :=
  let x := ofRatio n.natAbs 1
  if x.isInf then none else some (if n < 0 then -x else x)

/-- What is left of `x` when whole multiples of `y` are taken away, with the sign of `x`. -/
def remainder (x y : Float) : Float :=
  if x.isNaN || y.isNaN || x.isInf || y == 0.0 then 0.0 / 0.0
  else if y.isInf then x
  else
    let a := parts x
    let b := parts y
    let power := min a.power b.power
    let rest :=
      (a.significand * Nat.pow 2 (a.power - power).toNat) %
        (b.significand * Nat.pow 2 (b.power - power).toNat)
    let size :=
      if 0 ≤ power then ofRatio (rest * Nat.pow 2 power.toNat) 1
      else ofRatio rest (Nat.pow 2 (-power).toNat)
    if isNegative x then -size else size

/-- A zero with the sign of a double. -/
def zeroLike (x : Float) : Float := if isNegative x then -0.0 else 0.0

/-- The quotient of two doubles rounded toward minus infinity, and the remainder that belongs to it,
    which has the sign of the divisor. The divisor is not zero. -/
def floorDivMod (x y : Float) : Float × Float :=
  let rest := remainder x y
  let quotient := (x - rest) / y
  let (quotient, rest) :=
    if rest == 0.0 then (quotient, zeroLike y)
    else if (y < 0.0) != (rest < 0.0) then (quotient - 1.0, rest + y)
    else (quotient, rest)
  let whole :=
    if quotient == 0.0 then zeroLike (x / y)
    else if quotient - quotient.floor > 0.5 then quotient.floor + 1.0
    else quotient.floor
  (whole, rest)

end TradingEngine.Double
