import TradingEngine.Failure.Kind
import TradingEngine.Json.Writable
import TradingEngine.Market.Basic
import TradingEngine.Strategy.Finding

/-! # Failures and their causes

A failure is the cause that made an operation refuse, and carries an entry fill if a trade was left
half done. Its kind, its message and its context are functions of the cause. A cause keeps the
values it is about as they were given. A fault is anything that ends an operation: a failure, a
record that cannot be read, or a breakdown. A cause that cannot be put into words, for a number in
them has too many digits, breaks down.
-/

namespace TradingEngine

/-- Why an operation refused. -/
inductive Cause where
  /-- An operand is not an unsigned 64-bit amount. -/
  | notU64 (operand : String) (value : Json)
  | productTooLarge (a b : Json)
  | sumTooLarge (a b : Json)
  | differenceNegative (a b : Json)
  | divisorZero (numerator : Json)
  | resultTooLarge (value : Json)
  | bpsOutOfRange (bps : Json)
  | drainsPool (amountOut reserveOut : Json)
  | burnTooLarge (lpAmount lpSupply : Json)
  | averageTooLarge (samples : Int)
  | depositTooSmall (amountA amountB : Json)
  /-- A setting in basis points is not a whole number from 0 to 10000. -/
  | notBps (field value : Json)
  | slippageAboveCap (slippageBps cap : Json)
  | deadlinePassed (ago deadline now : Json)
  | deadlineTooFar (deadline now : Json)
  | ticksOutOfBounds (lower upper : Json)
  | ticksOffGrid (lower upper spacing : Json)
  | belowMinimumOut (amountOut minimumOut : Json)
  | stalePrice (age limit : Json)
  | lowConfidence (confidence : Int) (limit : Json)
  | wideConfidence (confidence price : Int)
  | tightConfidence (confidence : Int) (floor : Json)
  | noSamples (period : Json)
  | noQuote (feed : Json)
  | noVolume (feed : Text)
  | noRate (key : Text)
  | tokenNotInPool (token tokenA tokenB : Json)
  | unknownPool (pool : Json) (venue : VenueKind)
  /-- No venue is registered; `shown` is the venue as it was asked for. -/
  | noVenue (shown : Text)
  | unownedReserves (pool reserveA reserveB : Json)
  | noSnapshot (pool : Text)
  | unknownPredicate (name : Text)
  | malformedProgram (problems : List BlockProblem)
  | triggerUnsatisfied (block : Text) (reading : Reading)
  | conditionUnmet (block : Text) (reading : Reading)
  | routeExpired (route : String) (deadline now : Int)
  | routeBelowMinimum (route : String) (expectedBps minimumBps : Int)
  | ratiosOff (total : Int)
  | inactive (strategy : Json)
  | halted
  /-- A caller's predicate refused, with a kind and a message of its own. -/
  | raised (kind : FailureKind) (message : Json)
  deriving BEq, Repr

namespace Cause

/-- The kind of failure that a cause makes. -/
def kind : Cause → FailureKind
  | notU64 .. | productTooLarge .. | sumTooLarge .. | differenceNegative .. | divisorZero ..
  | resultTooLarge .. | bpsOutOfRange .. | drainsPool .. | burnTooLarge .. | averageTooLarge ..
  | depositTooSmall .. => .overflow
  | notBps .. | deadlineTooFar .. | noRate .. | tokenNotInPool .. | unknownPool .. | noVenue ..
  | unownedReserves .. | noSnapshot .. | unknownPredicate .. | malformedProgram .. =>
    .invalidConfiguration
  | slippageAboveCap .. | belowMinimumOut .. => .slippageExceeded
  | deadlinePassed .. | routeExpired .. => .deadlineExceeded
  | routeBelowMinimum .. => .insufficientProfit
  | ticksOutOfBounds .. | ticksOffGrid .. => .invalidTickRange
  | stalePrice .. => .stalePrice
  | lowConfidence .. => .lowConfidence
  | wideConfidence .. => .excessiveRelativeConfidence
  | tightConfidence .. => .insufficientConfidence
  | noSamples .. | noQuote .. | noVolume .. => .insufficientPriceData
  | triggerUnsatisfied .. | conditionUnmet .. => .conditionNotMet
  | ratiosOff .. => .invalidRatios
  | inactive .. => .strategyInactive
  | halted => .haltActive
  | raised kind _ => kind

/-- A message that was handed over; one that counts as false is replaced by the code of the kind. -/
def given (kind : FailureKind) (message : Json) : Text :=
  if message.truthy then message.shown else kind.code

/-- A cause in words. -/
def message : Cause → Text
  | notU64 operand _ => s!"{operand} is not a u64 value"
  | productTooLarge .. => "multiplication overflow"
  | sumTooLarge .. => "addition overflow"
  | differenceNegative .. => "subtraction underflow"
  | divisorZero .. => "division by zero"
  | resultTooLarge .. => "result does not fit in u64"
  | bpsOutOfRange .. => "basis points outside [0, 10000]"
  | drainsPool .. => "amount_out drains the pool"
  | burnTooLarge .. => "burn exceeds LP supply"
  | averageTooLarge .. => "TWAP accumulator overflow"
  | depositTooSmall .. => "deposit too small to mint LP tokens"
  | notBps field _ => field.shown ++ " must be an integer in [0, 10000]"
  | slippageAboveCap bps cap => "slippage " ++ bps.shown ++ " bps above cap " ++ cap.shown ++ " bps"
  | deadlinePassed ago _ _ => "deadline passed " ++ ago.shown ++ "s ago"
  | deadlineTooFar .. => "deadline too far in the future"
  | ticksOutOfBounds lower upper =>
    "tick range [" ++ lower.shown ++ ", " ++ upper.shown ++ "] out of bounds"
  | ticksOffGrid _ _ spacing => "ticks must be multiples of " ++ spacing.shown
  | belowMinimumOut out minimum =>
    "filled " ++ out.shown ++ ", required at least " ++ minimum.shown
  | stalePrice age limit => "quote is " ++ age.shown ++ "s old, limit " ++ limit.shown ++ "s"
  | lowConfidence confidence limit => s!"confidence {confidence} above " ++ limit.shown
  | wideConfidence .. => "confidence interval too wide relative to price"
  | tightConfidence confidence floor => s!"confidence {confidence} below floor " ++ floor.shown
  | noSamples period => "no samples within " ++ period.shown ++ "s"
  | noQuote feed => "no quote for feed " ++ feed.shown
  | noVolume feed => "no volume for " ++ feed
  | noRate key => "No mock rate set for " ++ key
  | tokenNotInPool token a b =>
    "token " ++ token.shown ++ " is not in pool " ++ a.shown ++ "/" ++ b.shown
  | unknownPool pool venue => "unknown pool " ++ pool.shown ++ " on " ++ venue.name
  | noVenue shown => "no venue registered for " ++ shown
  | unownedReserves pool _ _ => "pool " ++ pool.shown ++ " has reserves but no LP supply"
  | noSnapshot pool => "no pool snapshot for " ++ pool
  | unknownPredicate name => "unknown predicate " ++ name
  | malformedProgram problems => Text.intercalate "; " (problems.map BlockProblem.text)
  | triggerUnsatisfied block _ => "trigger " ++ block ++ " not satisfied"
  | conditionUnmet block _ => "condition " ++ block ++ " not met"
  | routeExpired route _ _ => s!"route {route} expired"
  | routeBelowMinimum route _ _ => s!"route {route} below minimum profit"
  | ratiosOff total => s!"target ratios sum to {total}, expected 100"
  | inactive strategy => "strategy " ++ strategy.shown ++ " is inactive"
  | halted => "Kill switch is active. Halting execution."
  | raised kind message => given kind message

/-- The values that are shown in the words of a cause. -/
def shownValues : Cause → List Json
  | notBps field _ => [field]
  | slippageAboveCap bps cap => [bps, cap]
  | deadlinePassed ago _ _ => [ago]
  | ticksOutOfBounds lower upper => [lower, upper]
  | ticksOffGrid _ _ spacing => [spacing]
  | belowMinimumOut out minimum => [out, minimum]
  | stalePrice age limit => [age, limit]
  | lowConfidence confidence limit => [.int confidence, limit]
  | tightConfidence confidence floor => [.int confidence, floor]
  | noSamples period => [period]
  | noQuote feed => [feed]
  | tokenNotInPool token a b => [token, a, b]
  | unknownPool pool _ | unownedReserves pool _ _ => [pool]
  | malformedProgram problems => problems.flatMap BlockProblem.shownValues
  | ratiosOff total => [.int total]
  | inactive strategy => [strategy]
  | raised _ message => [message]
  | _ => []

/-- The values that a cause reports beside its message. -/
def context : Cause → Fields
  | notU64 operand value => [("operand", .text operand), ("value", value)]
  | productTooLarge a b | sumTooLarge a b | differenceNegative a b => [("a", a), ("b", b)]
  | divisorZero numerator => [("numerator", numerator)]
  | resultTooLarge value => [("value", value)]
  | bpsOutOfRange bps => [("bps", bps)]
  | drainsPool out reserve => [("amount_out", out), ("reserve_out", reserve)]
  | burnTooLarge amount supply => [("lp_amount", amount), ("lp_supply", supply)]
  | averageTooLarge samples => [("samples", .int samples)]
  | depositTooSmall a b => [("amount_a", a), ("amount_b", b)]
  | notBps field value => [("field", field), ("value", value)]
  | slippageAboveCap bps cap => [("slippage_bps", bps), ("cap", cap)]
  | deadlinePassed _ deadline now | deadlineTooFar deadline now =>
    [("deadline", deadline), ("now", now)]
  | routeExpired _ deadline now => [("deadline", .int deadline), ("now", .int now)]
  | ticksOutOfBounds lower upper | ticksOffGrid lower upper _ =>
    [("lower", lower), ("upper", upper)]
  | belowMinimumOut out minimum => [("amount_out", out), ("minimum_out", minimum)]
  | stalePrice age limit => [("age", age), ("max_staleness", limit)]
  | lowConfidence confidence limit => [("confidence", .int confidence), ("max_confidence", limit)]
  | wideConfidence confidence price => [("confidence", .int confidence), ("price", .int price)]
  | tightConfidence confidence floor => [("confidence", .int confidence), ("floor", floor)]
  | noSamples period => [("period", period)]
  | noQuote feed => [("feed_id", feed)]
  | noVolume feed => [("feed_id", .text feed)]
  | noRate _ => []
  | tokenNotInPool token _ _ => [("token", token)]
  | unknownPool pool _ => [("pool", pool)]
  | noSnapshot pool => [("pool", .text pool)]
  | noVenue shown => [("venue", .text shown)]
  | unownedReserves pool a b => [("pool", pool), ("reserve_a", a), ("reserve_b", b)]
  | unknownPredicate name => [("predicate", .text name)]
  | malformedProgram problems => [("problems", .texts (problems.map BlockProblem.text))]
  | triggerUnsatisfied block reading | conditionUnmet block reading =>
    ("block_id", .text block) :: reading.fields
  | routeBelowMinimum _ expected minimum =>
    [("expected_profit_bps", .int expected), ("min_profit_bps", .int minimum)]
  | ratiosOff total => [("total", .int total)]
  | inactive strategy => [("strategy", strategy)]
  | halted | raised .. => []

end Cause

/-- A fill as named values. -/
def Fill.toJson (f : Fill) : Json :=
  .record [("amount_in", .int f.amountIn), ("amount_out", .int f.amountOut)]

/-- A refusal, with the entry fill of a trade that it left half done. -/
structure Failure where
  cause : Cause
  entryFill : Option Fill := none
  deriving BEq, Repr

namespace Failure

/-- The kind of a failure. -/
def kind (f : Failure) : FailureKind := f.cause.kind

/-- The stable code of a failure. -/
def code (f : Failure) : String := f.kind.code

/-- A failure in words. -/
def message (f : Failure) : Text := f.cause.message

/-- Everything a failure reports beside its message. -/
def context (f : Failure) : Fields :=
  f.cause.context ++ match f.entryFill with
    | some fill => [("entry_fill", fill.toJson)]
    | none => []

end Failure

/-- What a failure of this kind tells its caller: its code and its message, over which the context
    may write. -/
def FailureKind.report (k : FailureKind) (message : Text) (context : Fields) : Fields :=
  Json.putAll [("code", .text k.code), ("message", .text message)] context

/-- What a failure tells its caller. -/
def Failure.report (f : Failure) : Fields := f.kind.report f.message f.context

/-- Anything that ends an operation early. -/
inductive Fault where
  | failure (f : Failure)
  /-- A record of this kind could not be read. -/
  | refused (record : RecordKind) (problems : List Problem)
  | breakdown (b : Breakdown)
  deriving BEq, Repr

/-- The fault of an operation that refuses for this cause. -/
def Cause.fault (cause : Cause) : Fault :=
  if Json.allWritable cause.shownValues then .failure ⟨cause, none⟩ else .breakdown .tooManyDigits

/-- Refuses for this cause. -/
def refuse {α : Type} (cause : Cause) : Except Fault α := .error cause.fault

/-- The words for a value, if it can be put into words. -/
def Json.inWords (v : Json) : Except Fault Text :=
  if v.isWritable then .ok v.shown else .error (.breakdown .tooManyDigits)

end TradingEngine
