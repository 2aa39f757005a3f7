import TradingEngine.Arithmetic.Double
import TradingEngine.Failure.Breakdown

/-! # Ordered tables

A table is a list of keys with their entries, one per key, in the order in which the keys were first
written. Callers look entries up by names of any kind; only texts name anything in a table with text
keys, and in a table with keys of any kind numbers of one value name the same.
-/

namespace TradingEngine

/-- A name as a caller gave it. -/
abbrev Name := Json

/-- What a name comes to as a key: a text, nothing, or a number of this value. -/
inductive Key where
  | null
  | text (t : Text)
  | whole (n : Int)
  /-- A double that is no whole number, by its bits. -/
  | fraction (bits : UInt64)
  deriving DecidableEq, Repr

namespace Key

/-- The key of a double. -/
def ofReal (x : Float) : Key :=
  match Double.whole? x with
  | some n => whole n
  | none => fraction (if x.isNaN then 0x7FF8000000000000 else x.toBits)

/-- The key that a name comes to. Lists and records are no keys. -/
def ofName : Name → Except Breakdown Key
  | .null => .ok null
  | .text t => .ok (text t)
  | .bool b => .ok (whole (if b then 1 else 0))
  | .int n => .ok (whole n)
  | .real x => .ok (ofReal x)
  | .list _ | .record _ => .error .wrongType

@[simp] theorem ofName_text (t : Text) : ofName (.text t) = .ok (text t) := rfl

end Key

namespace Table

def get? {κ α : Type} [DecidableEq κ] (key : κ) (table : List (κ × α)) : Option α :=
  (table.find? fun row => decide (row.1 = key)).map (·.2)

/-- Writes an entry: a present key keeps its place, a new one goes last. -/
def put {κ α : Type} [DecidableEq κ] (key : κ) (value : α) : List (κ × α) → List (κ × α)
  | [] => [(key, value)]
  | (k, v) :: rest => if k = key then (key, value) :: rest else (k, v) :: put key value rest

/-- The entry under a name. Lists and records name nothing that could be in a table. -/
def keyed? {α : Type} (name : Name) (table : List (Key × α)) : Except Breakdown (Option α) :=
  (Key.ofName name).map fun key => get? key table

/-- The entry under a name, in a table with text keys. Nothing can be looked up under a list or a
    record. -/
def named? {α : Type} (name : Name) (table : List (Text × α)) : Except Breakdown (Option α) :=
  match name with
  | .text key => .ok (get? key table)
  | .list _ | .record _ => .error .wrongType
  | _ => .ok none

@[simp] theorem keyed?_text {α : Type} (t : Text) (table : List (Key × α)) :
    keyed? (.text t) table = .ok (get? (.text t) table) := rfl

@[simp] theorem named?_text {α : Type} (key : Text) (table : List (Text × α)) :
    named? (.text key) table = .ok (get? key table) := rfl

end Table

end TradingEngine
