import TradingEngine.Arithmetic.Quantity

/-! # Checked arithmetic

Operands are amounts of 64 unsigned bits and products may grow to 128 bits. Every step is checked: a
result above its limit, a difference below zero and a division by zero are failures. Division rounds
toward minus infinity.
-/

namespace TradingEngine

/-- The largest unsigned 64-bit number, 2^64 - 1. -/
def u64Max : Int := 18446744073709551615

/-- The largest unsigned 128-bit number, 2^128 - 1. -/
def u128Max : Int := 340282366920938463463374607431768211455

/-- The least signed 128-bit number, -2^127. -/
def i128Min : Int := -170141183460469231731687303715884105728

/-- The largest signed 128-bit number, 2^127 - 1. -/
def i128Max : Int := 170141183460469231731687303715884105727

/-- The whole, in basis points. -/
def bpsWhole : Int := 10000

namespace Checked

open Quantity

variable {ν : Type} [Quantity ν]

/-- The amount itself, if it is an unsigned 64-bit number. -/
def amount (operand : String) (value : ν) : Except Fault ν :=
  match whole? value with
  | some n =>
    if n < 0 || n > u64Max then refuse (.notU64 operand (toJson value)) else .ok value
  | none => refuse (.notU64 operand (toJson value))

/-- A product of at most `limit`. -/
def mulUpTo (limit a b : ν) : Except Fault ν := do
  let product ← mul a b
  if ← lt limit product then refuse (.productTooLarge (toJson a) (toJson b))
  return product

def product (a b : ν) : Except Fault ν := mulUpTo (ofInt u128Max) a b

/-- A sum of at most `limit`. -/
def addUpTo (limit a b : ν) : Except Fault ν := do
  let sum ← add a b
  if ← lt limit sum then refuse (.sumTooLarge (toJson a) (toJson b))
  return sum

def sum (a b : ν) : Except Fault ν := addUpTo (ofInt u128Max) a b

/-- A difference that is not negative. -/
def difference (a b : ν) : Except Fault ν := do
  if ← lt a b then refuse (.differenceNegative (toJson a) (toJson b))
  sub a b

/-- A quotient, rounded toward minus infinity. -/
def quotient (a b : ν) : Except Fault ν :=
  if isZero b then refuse (.divisorZero (toJson a)) else floorDiv a b

/-- A result of at most 64 bits. -/
def toU64 (value : ν) : Except Fault ν := do
  if ← lt (ofInt u64Max) value then refuse (.resultTooLarge (toJson value))
  return value

end Checked

end TradingEngine
