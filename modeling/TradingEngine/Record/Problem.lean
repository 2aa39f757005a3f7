import TradingEngine.Json.Value

/-! # Problems of a record

Which kinds of record there are, where in a submitted record something is wrong, and what kind of
wrong it is.
-/

namespace TradingEngine

/-- A kind of record. -/
inductive RecordKind where
  | pair
  | quote
  | usablePrice
  | fill
  | trade
  | limits
  | metrics
  | runState
  | target
  | move
  | pool
  | route
  | parameters
  | block
  | scanRequest
  | planRequest
  | context
  | settings
  deriving DecidableEq, Repr

/-- One step from a value to a part of it. -/
inductive PlaceStep where
  | field (name : String)
  | item (index : Nat)
  deriving DecidableEq, Repr

/-- The step to the entry under a key. -/
def PlaceStep.entry (key : Text) : PlaceStep := .field key.lossy

/-- A step as it is written in a report. -/
def PlaceStep.toJson : PlaceStep → Json
  | .field name => .string name
  | .item index => .int index

/-- What can be wrong with a part of a record. -/
inductive ProblemKind where
  | missing
  | extraForbidden
  | intType
  | intParsing
  | intTooLong
  | intFromFloat
  | finiteNumber
  | stringType
  | stringRagged
  | notMember
  | dictType
  | listType
  | modelType
  | modelAttributesType
  | instanceType
  | callableType
  | greaterThan
  | greaterThanEqual
  | lessThanEqual
  | jsonInvalid
  deriving DecidableEq, Repr

/-- The code of a kind of problem. -/
def ProblemKind.code : ProblemKind → String
  | .missing => "missing"
  | .extraForbidden => "extra_forbidden"
  | .intType => "int_type"
  | .intParsing => "int_parsing"
  | .intTooLong => "int_parsing_size"
  | .intFromFloat => "int_from_float"
  | .finiteNumber => "finite_number"
  | .stringType => "string_type"
  | .stringRagged => "string_unicode"
  | .notMember => "enum"
  | .dictType => "dict_type"
  | .listType => "list_type"
  | .modelType => "model_type"
  | .modelAttributesType => "model_attributes_type"
  | .instanceType => "is_instance_of"
  | .callableType => "callable_type"
  | .greaterThan => "greater_than"
  | .greaterThanEqual => "greater_than_equal"
  | .lessThanEqual => "less_than_equal"
  | .jsonInvalid => "json_invalid"

/-- Something wrong at one place of a record. -/
structure Problem where
  place : List PlaceStep
  kind : ProblemKind
  deriving DecidableEq, Repr

/-- The problem seen from one step further out. -/
def Problem.below (step : PlaceStep) (p : Problem) : Problem := { p with place := step :: p.place }

/-- The part of a value at the end of these steps; if one of them leads nowhere, the part before
    it. -/
def Json.part (v : Json) : List PlaceStep → Json
  | [] => v
  | .field name :: rest => match (v.fields.find? (·.1.lossy == name)).map (·.2) with
    | some inner => inner.part rest
    | none => v
  | .item index :: rest => match v.items[index]? with
    | some inner => inner.part rest
    | none => v

def Problem.toJson (p : Problem) : Json :=
  .list [.list (p.place.map PlaceStep.toJson), .text p.kind.code]

end TradingEngine
