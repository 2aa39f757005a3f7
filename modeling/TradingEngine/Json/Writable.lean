import TradingEngine.Failure.Breakdown
import TradingEngine.Arithmetic.Double
import TradingEngine.Json.Value
import TradingEngine.Text.Numeral

/-! # Values that can be written

Not every value has a text. A whole number with too many digits is never written, and lists and
objects are written only as far within one another as there is room for. What is sent to another
program may besides hold no double that is not finite, and no half of a surrogate pair.
-/

namespace TradingEngine.Json

mutual

/-- Whether no whole number in a value has too many digits to be written. -/
def isWritable : Json → Bool
  | .int n => Numeral.isWritable n
  | .list xs => allWritable xs
  | .record fs => fieldsWritable fs
  | _ => true

def allWritable : List Json → Bool
  | [] => true
  | x :: xs => isWritable x && allWritable xs

def fieldsWritable : Fields → Bool
  | [] => true
  | (_, v) :: fs => isWritable v && fieldsWritable fs

end

mutual

/-- Breaks down at the first part of a value that is not written. There is room for this many lists
    and objects within one another. -/
def checkWritten : Json → Nat → Except Breakdown Unit
  | .int n, _ => if Numeral.isWritable n then .ok () else .error .tooManyDigits
  | .list _, 0 | .record _, 0 => .error .tooDeep
  | .list xs, room + 1 => checkWrittenItems xs room
  | .record fs, room + 1 => checkWrittenFields fs room
  | _, _ => .ok ()

def checkWrittenItems : List Json → Nat → Except Breakdown Unit
  | [], _ => .ok ()
  | x :: xs, room => do checkWritten x room; checkWrittenItems xs room

def checkWrittenFields : Fields → Nat → Except Breakdown Unit
  | [], _ => .ok ()
  | (_, v) :: fs, room => do checkWritten v room; checkWrittenFields fs room

end

mutual

/-- Breaks down at the first number in a value that cannot be sent. -/
def checkNumbers : Json → Except Breakdown Unit
  | .int n => if Numeral.isWritable n then .ok () else .error .tooManyDigits
  | .real x => if Double.isFinite x then .ok () else .error .notWritable
  | .list xs => checkItems xs
  | .record fs => checkFields fs
  | _ => .ok ()

def checkItems : List Json → Except Breakdown Unit
  | [] => .ok ()
  | x :: xs => do checkNumbers x; checkItems xs

def checkFields : Fields → Except Breakdown Unit
  | [] => .ok ()
  | (_, v) :: fs => do checkNumbers v; checkFields fs

end

mutual

/-- Whether every text in a value holds nothing but characters. -/
def isWhole : Json → Bool
  | .text t => t.isWhole
  | .list xs => allWhole xs
  | .record fs => fieldsWhole fs
  | _ => true

def allWhole : List Json → Bool
  | [] => true
  | x :: xs => isWhole x && allWhole xs

/-- Whether every text in these fields, their names included, holds nothing but characters. -/
def fieldsWhole : Fields → Bool
  | [] => true
  | (k, v) :: fs => k.isWhole && isWhole v && fieldsWhole fs

end

/-- Breaks down on a value that cannot be sent. Its numbers are looked at before its texts. -/
def checkSent (v : Json) : Except Breakdown Unit := do
  checkNumbers v
  if !v.isWhole then .error .notEncodable

end TradingEngine.Json
