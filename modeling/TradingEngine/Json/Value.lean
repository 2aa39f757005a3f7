import TradingEngine.Text.Basic

/-! # JSON values

The value type shared by requests, records, error contexts and the audit trail. Object fields keep
the order in which they were first written; a key written again keeps its place and takes the last
value, so an object never holds one key twice if it was built with `Json.object`.
-/

namespace TradingEngine

/-- A JSON value. Whole numbers have any size; a number written with a point or an exponent is a
    double. -/
inductive Json where
  | null
  | bool (value : Bool)
  | int (value : Int)
  | real (value : Float)
  | text (value : Text)
  | list (items : List Json)
  | record (fields : List (Text × Json))
  deriving BEq, Repr, Inhabited

/-- Named values, in the order in which their names were first written. -/
abbrev Fields := List (Text × Json)

namespace Json

def string (s : String) : Json := .text s

/-- A key written again keeps its place and takes the new value; a new key goes last. -/
def put (key : Text) (value : Json) : Fields → Fields
  | [] => [(key, value)]
  | (k, v) :: rest => if k = key then (key, value) :: rest else (k, v) :: put key value rest

/-- Writes `additions` over `base`, one after the other. -/
def putAll (base additions : Fields) : Fields :=
  additions.foldl (fun fields (k, v) => put k v fields) base

/-- The object with these fields; of a key given twice the last value counts. -/
def object (fields : Fields) : Json := .record (putAll [] fields)

/-- The value stored under `key`, if there is one. -/
def lookup (key : Text) (fields : Fields) : Option Json :=
  (fields.find? (·.1 == key)).map (·.2)

/-- The value of an object's field; other values have no fields. -/
def field? (key : Text) : Json → Option Json
  | record fields => lookup key fields
  | _ => none

/-- The value of a field, with a field that holds `null` read as absent. -/
def given? (key : Text) (value : Json) : Option Json :=
  match value.field? key with
  | some .null => none
  | found => found

/-- The items of a list; other values have none. -/
def items : Json → List Json
  | list xs => xs
  | _ => []

/-- The fields of an object; other values have none. -/
def fields : Json → Fields
  | record fs => fs
  | _ => []

def text? : Json → Option Text
  | text t => some t
  | _ => none

def string? (value : Json) : Option String := value.text?.bind Text.string?

/-- The number that a value counts as in arithmetic: a boolean counts as 1 or 0. -/
def whole? : Json → Option Int
  | int n => some n
  | bool b => some (if b then 1 else 0)
  | _ => none

def texts (strings : List Text) : Json := .list (strings.map .text)

def strings (strings : List String) : Json := .list (strings.map string)

/-- An absent value is written `null`. -/
def ofOption {α : Type} (write : α → Json) : Option α → Json
  | some a => write a
  | none => null

/-- What stands in the place of a value that was taken away: a record that holds one name twice, as
    no record does that was read. -/
def gone : Json := .record [("", null), ("", null)]

def isGone : Json → Bool
  | record [(a, null), (b, null)] => a == b
  | _ => false

/-- Truth of a value where any value may stand for a condition: `null`, `false`, zero and whatever
    is empty are false. -/
def truthy : Json → Bool
  | null => false
  | bool b => b
  | int n => n != 0
  | real x => x != 0.0
  | text t => !t.isEmpty
  | list xs => !xs.isEmpty
  | record fs => !fs.isEmpty

end Json

end TradingEngine
