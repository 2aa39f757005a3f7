import TradingEngine.Json.Value
import TradingEngine.Text.Quoted
import TradingEngine.Text.Shortest

/-! # Values in messages

How a value reads inside a message. A text stands there as it is, everything else is spelled out; in
a list or a record texts are quoted.
-/

namespace TradingEngine.Json

mutual

/-- A value spelled out, with its texts in quotes. -/
def spelled : Json → String
  | .null => "None"
  | .bool true => "True"
  | .bool false => "False"
  | .int n => toString n
  | .real x => String.ofList (Shortest.text x)
  | .text s => Quoted.quoted s
  | .list [] => "[]"
  | .list (x :: xs) => "[" ++ spelled x ++ spelledItems xs
  | .record [] => "\x7b\x7d"
  | .record ((k, v) :: fs) =>
    "\x7b" ++ Quoted.quoted k ++ ": " ++ spelled v ++ spelledFields fs

def spelledItems : List Json → String
  | [] => "]"
  | x :: xs => ", " ++ spelled x ++ spelledItems xs

def spelledFields : Fields → String
  | [] => "\x7d"
  | (k, v) :: fs => ", " ++ Quoted.quoted k ++ ": " ++ spelled v ++ spelledFields fs

end

/-- A value as it reads in a message. -/
def shown : Json → Text
  | .text t => t
  | v => spelled v

@[simp] theorem shown_text (t : Text) : shown (.text t) = t := rfl

@[simp] theorem shown_int (n : Int) : shown (.int n) = toString n := by
  simp [shown, spelled]

end TradingEngine.Json
