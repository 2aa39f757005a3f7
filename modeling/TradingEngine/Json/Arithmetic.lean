import TradingEngine.Arithmetic.Double
import TradingEngine.Failure.Breakdown
import TradingEngine.Json.Shown

/-! # Arithmetic on values as they were given

A caller may give any value where a number is wanted. Booleans count as 1 and 0; whole numbers are
exact, and meet doubles as doubles; texts and lists can be joined, repeated and put in order. What
has no meaning breaks down where it is computed, and not before.
-/

namespace TradingEngine.Json

/-- A value where it is read from a record; one that was taken away breaks down. -/
def held (v : Json) : Except Breakdown Json :=
  if v.isGone then .error .absentAttribute else .ok v

def toReal (v : Json) : Except Breakdown Float :=
  match v, v.whole? with
  | real x, _ => .ok x
  | _, some n => match Double.ofInt? n with
    | some x => .ok x
    | none => .error .tooLarge
  | _, none => .error .wrongType

def isNumber : Json → Bool
  | bool _ | int _ | real _ => true
  | _ => false

/-- An operation on two numbers: exact on whole numbers, otherwise on doubles. -/
def binary (whole : Int → Int → Except Breakdown Json)
    (reals : Float → Float → Except Breakdown Json) (a b : Json) : Except Breakdown Json :=
  match a.whole?, b.whole? with
  | some m, some n => whole m n
  | _, _ =>
    if a.isNumber && b.isNumber then do
      let x ← a.toReal
      let y ← b.toReal
      reals x y
    else .error .wrongType

/-- The most items that a repetition is carried out for. Of a longer one the beginning is kept,
    which settles how it compares with anything that is shorter. -/
def repetitionLimit : Nat := 2000000

/-- The most items that there is room for. -/
def roomLimit : Nat := 10000000000

/-- The first number that is too large for a size, 2^63. -/
def sizeLimit : Nat := 9223372036854775808

/-- Repeats items a number of times; `overflow` is what happens when no size is large enough. -/
def repeated {α : Type} (overflow : Breakdown) (items : List α) (times : Int) :
    Except Breakdown (List α) :=
  let size := items.length * times.toNat
  if times ≥ sizeLimit || times < -sizeLimit then .error .tooLarge
  else if size = 0 then .ok []
  else if size ≥ sizeLimit then .error overflow
  else if size > roomLimit then .error .outOfMemory
  else
    let kept := min times.toNat (repetitionLimit / items.length + 1)
    .ok (List.replicate kept items).flatten

/-- A text or a list, repeated; other values cannot be. -/
def times (v : Json) (n : Int) : Except Breakdown Json :=
  match v with
  | text t => (repeated .tooLarge t.letters n).map fun letters => .text ⟨letters⟩
  | list xs => (repeated .outOfMemory xs n).map .list
  | _ => .error .wrongType

/-- A sum, or two texts or lists joined. -/
def add : Json → Json → Except Breakdown Json
  | text a, text b => .ok (.text (a ++ b))
  | list a, list b => .ok (.list (a ++ b))
  | a, b => binary (fun m n => .ok (.int (m + n))) (fun x y => .ok (.real (x + y))) a b

def sub : Json → Json → Except Breakdown Json :=
  binary (fun m n => .ok (.int (m - n))) (fun x y => .ok (.real (x - y)))

/-- A product, or a text or a list repeated. -/
def mul (a b : Json) : Except Breakdown Json :=
  match a.whole?, b.whole? with
  | some m, none => if b.isNumber then product else b.times m
  | none, some n => if a.isNumber then product else a.times n
  | _, _ => product
where
  /-- The product of two numbers. -/
  product : Except Breakdown Json :=
    binary (fun m n => .ok (.int (m * n))) (fun x y => .ok (.real (x * y))) a b

/-- A quotient, rounded toward minus infinity. -/
def floorDiv : Json → Json → Except Breakdown Json :=
  binary (fun m n => if n = 0 then .error .divisionByZero else .ok (.int (m.fdiv n)))
    fun x y =>
      if y == 0.0 then .error .divisionByZero else .ok (.real (Double.floorDivMod x y).1)

/-- The remainder that belongs to `floorDiv`; it has the sign of the divisor. -/
def floorMod : Json → Json → Except Breakdown Json :=
  binary (fun m n => if n = 0 then .error .divisionByZero else .ok (.int (m.fmod n)))
    fun x y =>
      if y == 0.0 then .error .divisionByZero else .ok (.real (Double.floorDivMod x y).2)

def negate (v : Json) : Except Breakdown Json :=
  match v, v.whole? with
  | real x, _ => .ok (.real (-x))
  | _, some n => .ok (.int (-n))
  | _, none => .error .wrongType

/-- How two numbers compare; NaN compares with none. Whole numbers and doubles compare exactly. -/
def compareNumbers (a b : Json) : Except Breakdown (Option Ordering) :=
  match a, b, a.whole?, b.whole? with
  | _, _, some m, some n => .ok (some (compare m n))
  | real x, real y, _, _ =>
    .ok (if x < y then some .lt else if y < x then some .gt else if x == y then some .eq else none)
  | real x, _, _, some n => .ok (Double.compareInt? x n)
  | _, real y, some m, _ => .ok ((Double.compareInt? y m).map Ordering.swap)
  | _, _, _, _ => .error .wrongType

def isNaN : Json → Bool
  | real x => x.isNaN
  | _ => false

mutual

/-- Whether two values are equal where lists and records hold them: numbers by value, NaN with
    itself, records without regard to order. -/
def sameHeld : Json → Json → Bool
  | .null, .null => true
  | .text a, .text b => a == b
  | .list xs, .list ys => sameItems xs ys
  | .record fs, .record gs => fs.length == gs.length && sameFields fs gs
  | a, b => match compareNumbers a b with
    | .ok (some .eq) => true
    | _ => a.isNaN && b.isNaN

def sameItems : List Json → List Json → Bool
  | [], [] => true
  | x :: xs, y :: ys => sameHeld x y && sameItems xs ys
  | _, _ => false

/-- Whether every one of these fields has an equal one among the others. -/
def sameFields : Fields → Fields → Bool
  | [], _ => true
  | (k, v) :: fs, gs =>
    (match lookup k gs with
      | some w => sameHeld v w
      | none => false) && sameFields fs gs

end

/-- Whether two values are equal. NaN by itself is equal to nothing. -/
def same (a b : Json) : Bool := !a.isNaN && sameHeld a b

@[simp] theorem same_text (a b : Text) : same (.text a) (.text b) = (a == b) := by
  simp [same, sameHeld, isNaN]

mutual

/-- How two values compare: numbers by value, texts by code points, lists by their first different
    items. Other values have no order. -/
def order : Json → Json → Except Breakdown (Option Ordering)
  | .text a, .text b => .ok (some (a.order b))
  | .list xs, .list ys => orderItems xs ys
  | a, b => compareNumbers a b

def orderItems : List Json → List Json → Except Breakdown (Option Ordering)
  | [], [] => .ok (some .eq)
  | [], _ :: _ => .ok (some .lt)
  | _ :: _, [] => .ok (some .gt)
  | x :: xs, y :: ys => if sameHeld x y then orderItems xs ys else order x y

end

def less (a b : Json) : Except Breakdown Bool := (order a b).map (· == some .lt)

def atMost (a b : Json) : Except Breakdown Bool :=
  (order a b).map fun o => o == some .lt || o == some .eq

/-- How much of a quoted text is shown where it is no numeral. -/
def quoteLimit : Nat := 200

/-- The whole number that a value comes to: a double loses its fraction, a text is read as a plain
    numeral. -/
def truncated : Json → Except Breakdown Int
  | .int n => .ok n
  | .bool b => .ok (if b then 1 else 0)
  | .real x =>
    if x.isNaN then .error .notNumber
    else if x.isInf then .error .tooLarge
    else .ok (Double.truncated x)
  | .text t => match Numeral.numeral? t with
    | .ok n => .ok n
    | .error (.tooLong digits) => .error (.numeralTooLong digits)
    | .error .malformed => .error (.notNumeral ((Quoted.quoted t).take quoteLimit).toString)
  | _ => .error .wrongType

end TradingEngine.Json
