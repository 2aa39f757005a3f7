import TradingEngine.Failure.Basic
import TradingEngine.Json.Arithmetic

/-! # Quantities

What the engine needs of the numbers it computes with. Its own quantities are whole numbers, on
which no operation but a division breaks down. A quantity can also be a value as a caller gave it,
which may turn out to be no number at all; then the engine breaks down at the first step for which
that matters.
-/

namespace TradingEngine

/-- A type whose values the engine can compute with. -/
class Quantity (ν : Type) where
  /-- A whole number as a quantity. -/
  ofInt : Int → ν
  /-- A quantity as it is reported. -/
  toJson : ν → Json
  /-- A value as a quantity, if it can be one. -/
  ofJson : Json → Except Fault ν
  /-- A quantity where it is read from a record; one that was taken away breaks down. -/
  held : ν → Except Fault ν
  add : ν → ν → Except Fault ν
  sub : ν → ν → Except Fault ν
  mul : ν → ν → Except Fault ν
  /-- The quotient, rounded toward minus infinity. -/
  floorDiv : ν → ν → Except Fault ν
  /-- The remainder that belongs to `floorDiv`. -/
  floorMod : ν → ν → Except Fault ν
  neg : ν → Except Fault ν
  lt : ν → ν → Except Fault Bool
  le : ν → ν → Except Fault Bool
  /-- Whether two quantities are equal. -/
  same : ν → ν → Bool
  /-- The whole number that a quantity comes to when its fraction is cut off. -/
  truncated : ν → Except Fault Int

namespace Quantity

/-! ### Whole numbers -/

instance : Quantity Int where
  ofInt n := n
  toJson := .int
  ofJson
    | .int n => .ok n
    | _ => .error (.breakdown .wrongType)
  held n := .ok n
  add a b := .ok (a + b)
  sub a b := .ok (a - b)
  mul a b := .ok (a * b)
  floorDiv a b := if b = 0 then .error (.breakdown .divisionByZero) else .ok (a.fdiv b)
  floorMod a b := if b = 0 then .error (.breakdown .divisionByZero) else .ok (a.fmod b)
  neg a := .ok (-a)
  lt a b := .ok (decide (a < b))
  le a b := .ok (decide (a ≤ b))
  same a b := decide (a = b)
  truncated a := .ok a

@[simp] theorem ofInt_int (n : Int) : (ofInt n : Int) = n := rfl

@[simp] theorem toJson_int (n : Int) : toJson n = .int n := rfl

@[simp] theorem ofJson_int (n : Int) : (ofJson (.int n) : Except Fault Int) = .ok n := rfl

@[simp] theorem held_int (n : Int) : held n = .ok n := rfl

@[simp] theorem add_int (a b : Int) : add a b = .ok (a + b) := rfl

@[simp] theorem sub_int (a b : Int) : sub a b = .ok (a - b) := rfl

@[simp] theorem mul_int (a b : Int) : mul a b = .ok (a * b) := rfl

@[simp] theorem floorDiv_int (a b : Int) :
    floorDiv a b = if b = 0 then .error (.breakdown .divisionByZero) else .ok (a.fdiv b) := rfl

@[simp] theorem floorMod_int (a b : Int) :
    floorMod a b = if b = 0 then .error (.breakdown .divisionByZero) else .ok (a.fmod b) := rfl

@[simp] theorem neg_int (a : Int) : neg a = .ok (-a) := rfl

@[simp] theorem lt_int (a b : Int) : lt a b = .ok (decide (a < b)) := rfl

@[simp] theorem le_int (a b : Int) : le a b = .ok (decide (a ≤ b)) := rfl

@[simp] theorem same_int (a b : Int) : same a b = decide (a = b) := rfl

@[simp] theorem truncated_int (a : Int) : truncated a = .ok a := rfl

/-! ### Values as they were given -/

instance : Quantity Json where
  ofInt := .int
  toJson v := v
  ofJson := .ok
  held v := v.held.mapError .breakdown
  add a b := (a.add b).mapError .breakdown
  sub a b := (a.sub b).mapError .breakdown
  mul a b := (a.mul b).mapError .breakdown
  floorDiv a b := (a.floorDiv b).mapError .breakdown
  floorMod a b := (a.floorMod b).mapError .breakdown
  neg a := a.negate.mapError .breakdown
  lt a b := (a.less b).mapError .breakdown
  le a b := (a.atMost b).mapError .breakdown
  same := Json.same
  truncated a := a.truncated.mapError .breakdown

/-! ### Derived notions -/

variable {ν : Type} [Quantity ν]

/-- The whole number that a quantity is, if it is one. -/
def whole? (a : ν) : Option Int := (toJson a).whole?

/-- Whether a quantity counts as true. -/
def truthy (a : ν) : Bool := (toJson a).truthy

def isZero (a : ν) : Bool := same a (ofInt 0)

/-- What a caller gave, or else what a record holds. -/
def orHeld (given : Option ν) (inRecord : ν) : Except Fault ν :=
  match given with
  | some a => .ok a
  | none => held inRecord

/-- The lesser of two quantities; of equal ones the first. -/
def min (a b : ν) : Except Fault ν := return if ← lt b a then b else a

/-- The greater of two quantities; of equal ones the first. -/
def max (a b : ν) : Except Fault ν := return if ← lt a b then b else a

@[simp] theorem orHeld_int (given : Option Int) (n : Int) :
    orHeld given n = .ok (given.getD n) := by
  cases given <;> rfl

@[simp] theorem whole?_int (a : Int) : whole? a = some a := rfl

@[simp] theorem truthy_int (a : Int) : truthy a = (a != 0) := rfl

@[simp] theorem isZero_int (a : Int) : isZero a = decide (a = 0) := rfl

end Quantity

end TradingEngine
