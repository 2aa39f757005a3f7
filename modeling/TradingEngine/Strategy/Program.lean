import TradingEngine.Strategy.Block

/-! # Programs

A block list without faults, read as instructions: every parameter that an instruction needs is part
of it, and a loop knows the positions it repeats.
-/

namespace TradingEngine

/-- What a block does, with all that it needs for it. -/
inductive Operation where
  | price (feed : Text) (condition : PriceComparison) (threshold : Int) (twapPeriod : Option Int)
  | volume (feed : Text) (threshold : Int)
  | time (notBefore notAfter : Option Int)
  | balance (token : Text) (minimum : Int)
  | priceImpact (pool token : Text) (amount maximumBps : Int)
  | custom (predicate : Text)
  | swap (venue : VenueKind) (pool token : Text) (amount slippageBps : Int)
      (minimumOut : Option Int)
  | deposit (venue : VenueKind) (pool : Text) (amount : Int) (amountB : Option Int)
  | withdraw (venue : VenueKind) (pool : Text) (amount : Int)
  /-- Repeats the blocks from `first` to `last`. -/
  | loop (first last : Nat) (iterations : Int)
  | exitAfter (blocks : Int)
  | exitOnLoss (maxLoss : Int)
  | exitCustom (predicate : Text)
  deriving DecidableEq, Repr

/-- The type of the block that an operation comes from. -/
def Operation.type : Operation → BlockType
  | .price .. | .volume .. | .time .. => .trigger
  | .balance .. | .priceImpact .. | .custom .. => .condition
  | .swap .. | .deposit .. | .withdraw .. => .action
  | .loop .. => .loop
  | .exitAfter .. | .exitOnLoss .. | .exitCustom .. => .exit

/-- One block of a program. -/
structure Instruction where
  id : Text
  operation : Operation
  deriving DecidableEq, Repr

/-- A block list that can be run. -/
abbrev Program := List Instruction

/-- What a block does among `blocks`, if it has all that its form needs. -/
def Block.operation? (blocks : List Block) (b : Block) : Option Operation := do
  let c := b.parameters
  match ← b.form? with
  | .trigger .price =>
    return .price (← c.feedId) (← c.priceCondition) (← c.priceThreshold)
      (c.twapPeriod.filter (· != 0))
  | .trigger .volume => return .volume (← c.feedId) (← c.volumeThreshold)
  | .trigger .time => return .time c.notBefore c.notAfter
  | .condition .balance => return .balance (← c.token) (← c.minimumBalance)
  | .condition .priceImpact =>
    return .priceImpact (← c.pool) (← c.token) (← c.amount) (← c.maxPriceImpactBps)
  | .condition .custom => return .custom (← c.predicate)
  | .action .swap =>
    return .swap (← c.venue) (← c.pool) (← c.token) (← c.amount) (← c.slippageBps) c.minimumOut
  | .action .addLiquidity => return .deposit (← c.venue) (← c.pool) (← c.amount) c.amountB
  | .action .removeLiquidity => return .withdraw (← c.venue) (← c.pool) (← c.amount)
  | .loop =>
    return .loop (← position? (← c.loopStart) blocks) (← position? (← c.loopEnd) blocks)
      (← c.maxIterations)
  | .exit .blocksExecuted => return .exitAfter (← c.exitAfterBlocks)
  | .exit .cumulativeLoss => return .exitOnLoss (← c.maxLoss)
  | .exit .custom => return .exitCustom (← c.predicate)

def Block.instruction? (blocks : List Block) (b : Block) : Option Instruction :=
  (b.operation? blocks).map (⟨b.id, ·⟩)

/-- The program of a block list, or the faults for which it cannot be run. A list without faults
    lacks nothing that its instructions need. -/
def Program.ofBlocks {ν : Type} [Quantity ν] (maxIterations : ν) (blocks : List Block) :
    Except Fault Program := do
  let _ ← Block.validate maxIterations blocks
  match blocks.mapM (Block.instruction? blocks) with
  | some program => return program
  | none => .error (.breakdown .wrongType)

end TradingEngine
