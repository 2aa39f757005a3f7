import TradingEngine.Json.Shown
import TradingEngine.Strategy.Vocabulary

/-! # What a program is told

`Reading` is what a trigger or a condition saw when it was tested; `BlockProblem` is what makes a
block list unfit to run. Both are reported in full to the caller.
-/

namespace TradingEngine

/-- The values that a trigger or a condition compared. -/
inductive Reading where
  | price (price threshold : Int) (condition : PriceComparison)
  | volume (volume threshold : Int)
  | time (now : Int) (notBefore notAfter : Option Int)
  | balance (balance minimum : Int)
  | impact (impactBps : Json) (maximumBps : Int)
  | predicate (name : Text)
  deriving BEq, Repr

/-- A reading as named values. -/
def Reading.fields : Reading → Fields
  | .price seen threshold condition =>
    [("price", .int seen), ("threshold", .int threshold), ("condition", .text condition.name)]
  | .volume seen threshold => [("volume", .int seen), ("threshold", .int threshold)]
  | .time now notBefore notAfter =>
    [("now", .int now), ("not_before", .ofOption .int notBefore),
      ("not_after", .ofOption .int notAfter)]
  | .balance held minimum => [("balance", .int held), ("minimum_balance", .int minimum)]
  | .impact seen maximum => [("impact_bps", seen), ("max_price_impact_bps", .int maximum)]
  | .predicate name => [("predicate", .text name)]

/-- A structural fault of a block list. -/
inductive BlockProblem where
  | duplicateId (id : Text)
  | noSubType (id : Text) (type : BlockType)
  | missingField (id : Text) (field : String)
  | noTimeBound (id : Text)
  | unknownTarget (loop target : Text)
  | rangeNotEarlier (loop : Text)
  | tooManyIterations (loop : Text) (limit : Json)
  deriving BEq, Repr

namespace BlockProblem

def text : BlockProblem → Text
  | duplicateId id => "duplicate block id " ++ id
  | noSubType id type => "block " ++ id ++ s!" has no {type.name} type"
  | missingField id field => "block " ++ id ++ s!" missing {field}"
  | noTimeBound id => "block " ++ id ++ " needs not_before or not_after"
  | unknownTarget loop target => "loop " ++ loop ++ " references unknown block " ++ target
  | rangeNotEarlier loop => "loop " ++ loop ++ " range must be earlier blocks in order"
  | tooManyIterations loop limit => "loop " ++ loop ++ " max_iterations above " ++ limit.shown

/-- The values that are shown in the words of a fault. -/
def shownValues : BlockProblem → List Json
  | tooManyIterations _ limit => [limit]
  | _ => []

end BlockProblem

end TradingEngine
