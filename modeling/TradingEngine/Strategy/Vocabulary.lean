/-! # The vocabulary of strategy blocks

The kinds of block, and within each kind what a block may watch, require, do or end on. Every word
has one spelling.
-/

namespace TradingEngine

/-- What a block does in a program. -/
inductive BlockType where
  | trigger
  | condition
  | action
  | loop
  | exit
  deriving DecidableEq, Repr, Inhabited

/-- What a trigger watches. -/
inductive TriggerType where
  | price
  | volume
  | time
  deriving DecidableEq, Repr, Inhabited

/-- How a price trigger compares a price with its threshold. -/
inductive PriceComparison where
  | above
  | below
  | equal
  deriving DecidableEq, Repr, Inhabited

/-- What a condition requires. -/
inductive ConditionType where
  | balance
  | priceImpact
  | custom
  deriving DecidableEq, Repr, Inhabited

/-- What an action does at a venue. -/
inductive ActionType where
  | swap
  | addLiquidity
  | removeLiquidity
  deriving DecidableEq, Repr, Inhabited

/-- What an exit tests. -/
inductive ExitType where
  | blocksExecuted
  | cumulativeLoss
  | custom
  deriving DecidableEq, Repr, Inhabited

namespace BlockType

def name : BlockType → String
  | trigger => "trigger"
  | condition => "condition"
  | action => "action"
  | loop => "loop"
  | exit => "exit"

def all : List BlockType := [trigger, condition, action, loop, exit]

end BlockType

namespace TriggerType

def name : TriggerType → String
  | price => "price"
  | volume => "volume"
  | time => "time"

def all : List TriggerType := [price, volume, time]

end TriggerType

namespace PriceComparison

def name : PriceComparison → String
  | above => "above"
  | below => "below"
  | equal => "equal"

def all : List PriceComparison := [above, below, equal]

end PriceComparison

namespace ConditionType

def name : ConditionType → String
  | balance => "balance"
  | priceImpact => "price_impact"
  | custom => "custom"

def all : List ConditionType := [balance, priceImpact, custom]

end ConditionType

namespace ActionType

def name : ActionType → String
  | swap => "swap"
  | addLiquidity => "add_liquidity"
  | removeLiquidity => "remove_liquidity"

def all : List ActionType := [swap, addLiquidity, removeLiquidity]

end ActionType

namespace ExitType

def name : ExitType → String
  | blocksExecuted => "blocks_executed"
  | cumulativeLoss => "cumulative_loss"
  | custom => "custom"

def all : List ExitType := [blocksExecuted, cumulativeLoss, custom]

end ExitType

end TradingEngine
