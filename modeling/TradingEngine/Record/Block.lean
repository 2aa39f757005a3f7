import TradingEngine.Record.Market
import TradingEngine.Strategy.Block

/-! # Records of strategy blocks

How blocks are read and written. A bag of parameters refuses fields that it does not know, so that a
misspelt parameter is not taken for an absent one; a block ignores them.
-/

namespace TradingEngine

namespace BlockParameters

def fieldNames : List String :=
  ["feed_id", "price_condition", "price_threshold", "twap_period", "volume_threshold", "not_before",
    "not_after", "token", "minimum_balance", "max_price_impact_bps", "predicate", "venue", "pool",
    "amount", "amount_b", "slippage_bps", "minimum_out", "loop_start", "loop_end",
    "max_iterations", "exit_after_blocks", "max_loss"]

def decode (origin : Origin) : Decoder BlockParameters :=
  Decoder.object origin fun fs => Decoder.closed fieldNames fs <|
    let text (name : String) := Decoder.optionalField fs name Decoder.text
    let amount (name : String) := Decoder.optionalField fs name (Decoder.atLeast 0)
    let share (name : String) := Decoder.optionalField fs name (Decoder.within 0 10000)
    BlockParameters.mk <$> text "feed_id"
      <*> Decoder.optionalField fs "price_condition"
        (Decoder.member PriceComparison.name PriceComparison.all)
      <*> amount "price_threshold"
      <*> Decoder.optionalField fs "twap_period" (Decoder.above 0)
      <*> amount "volume_threshold"
      <*> Decoder.optionalField fs "not_before" Decoder.int
      <*> Decoder.optionalField fs "not_after" Decoder.int
      <*> text "token"
      <*> amount "minimum_balance"
      <*> share "max_price_impact_bps"
      <*> text "predicate"
      <*> Decoder.optionalField fs "venue" VenueKind.decode
      <*> text "pool"
      <*> amount "amount"
      <*> amount "amount_b"
      <*> share "slippage_bps"
      <*> amount "minimum_out"
      <*> text "loop_start"
      <*> text "loop_end"
      <*> amount "max_iterations"
      <*> amount "exit_after_blocks"
      <*> amount "max_loss"

def toJson (c : BlockParameters) : Json :=
  let text (name : String) (value : Option Text) : Text × Json := (name, .ofOption .text value)
  let word (name : String) (value : Option String) : Text × Json :=
    (name, .ofOption .string value)
  let number (name : String) (value : Option Int) : Text × Json := (name, .ofOption .int value)
  .record
    [text "feed_id" c.feedId, word "price_condition" (c.priceCondition.map PriceComparison.name),
      number "price_threshold" c.priceThreshold, number "twap_period" c.twapPeriod,
      number "volume_threshold" c.volumeThreshold, number "not_before" c.notBefore,
      number "not_after" c.notAfter, text "token" c.token,
      number "minimum_balance" c.minimumBalance,
      number "max_price_impact_bps" c.maxPriceImpactBps, text "predicate" c.predicate,
      word "venue" (c.venue.map VenueKind.name), text "pool" c.pool, number "amount" c.amount,
      number "amount_b" c.amountB, number "slippage_bps" c.slippageBps,
      number "minimum_out" c.minimumOut, text "loop_start" c.loopStart, text "loop_end" c.loopEnd,
      number "max_iterations" c.maxIterations, number "exit_after_blocks" c.exitAfterBlocks,
      number "max_loss" c.maxLoss]

end BlockParameters

namespace Block

def decode (origin : Origin) : Decoder Block :=
  Decoder.object origin fun fs =>
    Block.mk <$> Decoder.required fs "id" Decoder.text
      <*> Decoder.required fs "block_type" (Decoder.member BlockType.name BlockType.all)
      <*> Decoder.optionalField fs "trigger_type" (Decoder.member TriggerType.name TriggerType.all)
      <*> Decoder.optionalField fs "condition_type"
        (Decoder.member ConditionType.name ConditionType.all)
      <*> Decoder.optionalField fs "action_type" (Decoder.member ActionType.name ActionType.all)
      <*> Decoder.optionalField fs "exit_type" (Decoder.member ExitType.name ExitType.all)
      <*> Decoder.defaulted fs "config" (BlockParameters.decode origin) {}

def toJson (b : Block) : Json :=
  .record
    [("id", .text b.id), ("block_type", .text b.type.name),
      ("trigger_type", .ofOption .string (b.triggerType.map TriggerType.name)),
      ("condition_type", .ofOption .string (b.conditionType.map ConditionType.name)),
      ("action_type", .ofOption .string (b.actionType.map ActionType.name)),
      ("exit_type", .ofOption .string (b.exitType.map ExitType.name)),
      ("config", b.parameters.toJson)]

end Block

end TradingEngine
