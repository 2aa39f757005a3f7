import TradingEngine.Arithmetic.Quantity

/-! # Strategy blocks

A block list as its author writes it: every block has a type, a sub-type for that type and a bag of
parameters. Which parameters a block needs depends on its type and sub-type. `Block.problems` lists
every structural fault of a block list; a list without faults can be run.
-/

namespace TradingEngine

/-- The parameters of a block; which of them matter depends on the block. -/
structure BlockParameters where
  feedId : Option Text := none
  priceCondition : Option PriceComparison := none
  priceThreshold : Option Int := none
  twapPeriod : Option Int := none
  volumeThreshold : Option Int := none
  notBefore : Option Int := none
  notAfter : Option Int := none
  token : Option Text := none
  minimumBalance : Option Int := none
  maxPriceImpactBps : Option Int := none
  predicate : Option Text := none
  venue : Option VenueKind := none
  pool : Option Text := none
  amount : Option Int := none
  amountB : Option Int := none
  slippageBps : Option Int := none
  minimumOut : Option Int := none
  loopStart : Option Text := none
  loopEnd : Option Text := none
  maxIterations : Option Int := none
  exitAfterBlocks : Option Int := none
  maxLoss : Option Int := none
  deriving DecidableEq, Repr, Inhabited

/-- A block as its author writes it. -/
structure Block where
  id : Text
  type : BlockType
  triggerType : Option TriggerType := none
  conditionType : Option ConditionType := none
  actionType : Option ActionType := none
  exitType : Option ExitType := none
  parameters : BlockParameters := {}
  deriving DecidableEq, Repr, Inhabited

/-- A block's type together with the sub-type that belongs to it. -/
inductive BlockForm where
  | trigger (type : TriggerType)
  | condition (type : ConditionType)
  | action (type : ActionType)
  | loop
  | exit (type : ExitType)
  deriving DecidableEq, Repr

/-- The spelling of the sub-type; a loop has none. -/
def BlockForm.name? : BlockForm → Option String
  | .trigger type => some type.name
  | .condition type => some type.name
  | .action type => some type.name
  | .loop => none
  | .exit type => some type.name

/-- A parameter that some form of block needs. -/
inductive Parameter where
  | feedId
  | priceCondition
  | priceThreshold
  | volumeThreshold
  | token
  | minimumBalance
  | maxPriceImpactBps
  | predicate
  | venue
  | pool
  | amount
  | slippageBps
  | loopStart
  | loopEnd
  | maxIterations
  | exitAfterBlocks
  | maxLoss
  deriving DecidableEq, Repr

namespace Parameter

def name : Parameter → String
  | feedId => "feed_id"
  | priceCondition => "price_condition"
  | priceThreshold => "price_threshold"
  | volumeThreshold => "volume_threshold"
  | token => "token"
  | minimumBalance => "minimum_balance"
  | maxPriceImpactBps => "max_price_impact_bps"
  | predicate => "predicate"
  | venue => "venue"
  | pool => "pool"
  | amount => "amount"
  | slippageBps => "slippage_bps"
  | loopStart => "loop_start"
  | loopEnd => "loop_end"
  | maxIterations => "max_iterations"
  | exitAfterBlocks => "exit_after_blocks"
  | maxLoss => "max_loss"

def isSet (c : BlockParameters) : Parameter → Bool
  | feedId => c.feedId.isSome
  | priceCondition => c.priceCondition.isSome
  | priceThreshold => c.priceThreshold.isSome
  | volumeThreshold => c.volumeThreshold.isSome
  | token => c.token.isSome
  | minimumBalance => c.minimumBalance.isSome
  | maxPriceImpactBps => c.maxPriceImpactBps.isSome
  | predicate => c.predicate.isSome
  | venue => c.venue.isSome
  | pool => c.pool.isSome
  | amount => c.amount.isSome
  | slippageBps => c.slippageBps.isSome
  | loopStart => c.loopStart.isSome
  | loopEnd => c.loopEnd.isSome
  | maxIterations => c.maxIterations.isSome
  | exitAfterBlocks => c.exitAfterBlocks.isSome
  | maxLoss => c.maxLoss.isSome

end Parameter

/-- The parameters that a form of block needs. -/
def BlockForm.required : BlockForm → List Parameter
  | .trigger .price => [.feedId, .priceCondition, .priceThreshold]
  | .trigger .volume => [.feedId, .volumeThreshold]
  | .trigger .time => []
  | .condition .balance => [.token, .minimumBalance]
  | .condition .priceImpact => [.pool, .token, .amount, .maxPriceImpactBps]
  | .condition .custom => [.predicate]
  | .action .swap => [.venue, .pool, .token, .amount, .slippageBps]
  | .action .addLiquidity => [.venue, .pool, .amount]
  | .action .removeLiquidity => [.venue, .pool, .amount]
  | .loop => [.loopStart, .loopEnd, .maxIterations]
  | .exit .blocksExecuted => [.exitAfterBlocks]
  | .exit .cumulativeLoss => [.maxLoss]
  | .exit .custom => [.predicate]

namespace Block

open Quantity

variable {ν : Type} [Quantity ν]

/-- The form of a block, if it has the sub-type of its type. -/
def form? (b : Block) : Option BlockForm :=
  match b.type with
  | .trigger => b.triggerType.map .trigger
  | .condition => b.conditionType.map .condition
  | .action => b.actionType.map .action
  | .loop => some .loop
  | .exit => b.exitType.map .exit

/-- The spelling of the block's sub-type. -/
def subType? (b : Block) : Option String := b.form?.bind BlockForm.name?

/-- The faults of a block on its own. -/
def ownProblems (b : Block) : List BlockProblem :=
  match b.form? with
  | none => [.noSubType b.id b.type]
  | some form =>
    ((form.required.filter fun p => !p.isSet b.parameters).map
      fun p => .missingField b.id p.name) ++
    (if form = .trigger .time && b.parameters.notBefore.isNone && b.parameters.notAfter.isNone then
      [.noTimeBound b.id] else [])

/-- The faults of the blocks on their own, and every id that an earlier block has. -/
def problemsFrom (seen : List Text) : List Block → List BlockProblem
  | [] => []
  | b :: rest =>
    (if seen.contains b.id then [.duplicateId b.id] else []) ++ b.ownProblems ++
      problemsFrom (b.id :: seen) rest

/-- The position of an id: the last one, if a list holds it more than once. -/
def position? (id : Text) (blocks : List Block) : Option Nat :=
  (blocks.zipIdx.reverse.find? (·.1.id == id)).map (·.2)

/-- What is wrong with the number of iterations of a loop, if anything is. -/
def iterationProblems (maxIterations : ν) (b : Block) : Except Fault (List BlockProblem) := do
  match b.parameters.maxIterations with
  | some n =>
    let most ← held maxIterations
    if ← lt most (ofInt n) then return [.tooManyIterations b.id (toJson most)]
    return []
  | none => return []

/-- What is wrong with the range of a loop that stands at `position`. -/
def rangeProblems (blocks : List Block) (position : Nat) (b : Block) : List BlockProblem :=
  let start := b.parameters.loopStart.bind (position? · blocks)
  let stop := b.parameters.loopEnd.bind (position? · blocks)
  (match b.parameters.loopStart, start with
    | some target, none => [.unknownTarget b.id target]
    | _, _ => []) ++
  (match b.parameters.loopEnd, stop with
    | some target, none => [.unknownTarget b.id target]
    | _, _ => []) ++
  (match start, stop with
    | some s, some e => if s ≤ e && e < position then [] else [.rangeNotEarlier b.id]
    | _, _ => [])

/-- The faults of a block as a loop, if it is one. -/
def loopProblems (maxIterations : ν) (blocks : List Block) (b : Block) (position : Nat) :
    Except Fault (List BlockProblem) := do
  if b.type = .loop then
    return rangeProblems blocks position b ++ (← iterationProblems maxIterations b)
  else return []

/-- Every structural fault of a block list: first those of blocks on their own, then those of the
    loops. -/
def problems (maxIterations : ν) (blocks : List Block) : Except Fault (List BlockProblem) := do
  let ofLoops ← blocks.zipIdx.mapM fun (b, position) =>
    loopProblems maxIterations blocks b position
  return problemsFrom [] blocks ++ ofLoops.flatten

/-- The position of every block, if the list has no fault. -/
def validate (maxIterations : ν) (blocks : List Block) : Except Fault (List (Text × Nat)) := do
  match ← problems maxIterations blocks with
  | [] => return blocks.zipIdx.map fun (b, position) => (b.id, position)
  | faults => refuse (.malformedProgram faults)

end Block

end TradingEngine
