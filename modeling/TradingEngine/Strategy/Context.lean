import TradingEngine.Market.Execution
import TradingEngine.Market.Oracle
import TradingEngine.Risk

/-! # What a run reads and what it builds up

A context is the caller's snapshot for one run: market data, limits, totals, balances and
predicates. A run never writes it. The run's own state is what it has executed so far.
-/

namespace TradingEngine

/-- What one run has done so far. -/
structure RunState where
  executedBlockIds : List Text := []
  loopCounters : List (Text × Int) := []
  lastPrices : List (Text × Int) := []
  trades : List ExecutedTrade := []
  deriving DecidableEq, Repr, Inhabited

namespace RunState

/-- The profit of the run's trades so far. -/
def cumulativeProfitLoss (s : RunState) : Int := (s.trades.map (·.profitLoss)).foldr (· + ·) 0

def recordAction (block : Text) (result : ExecutedTrade) (s : RunState) : RunState :=
  { s with
    trades := s.trades ++ [result]
    executedBlockIds := s.executedBlockIds ++ [block] }

def recordPrice (feed : Text) (price : Int) (s : RunState) : RunState :=
  { s with lastPrices := Table.put feed price s.lastPrices }

/-- How often a loop has started an iteration. -/
def iterations (block : Text) (s : RunState) : Int := (Table.get? block s.loopCounters).getD 0

def startIteration (block : Text) (s : RunState) : RunState :=
  { s with loopCounters := Table.put block (s.iterations block + 1) s.loopCounters }

end RunState

/-- Where a context's pool comes from: a copy taken by the caller, or the pool of a registered paper
    venue as it is at the time of reading. -/
inductive PoolSource (ν : Type) where
  | snapshot (reserves : Pool ν)
  /-- A pool that was changed by hand, as it was. -/
  | loose (record : LooseRecord)
  | live (venue : VenueKind) (pool : Key)
  deriving BEq, Repr

/-- What a run reads. -/
structure Snapshot (ν : Type) where
  oracle : Oracle ν
  risk : RiskLimits
  metrics : Metrics ν
  now : Int
  balances : List (Text × Int) := []
  volumes : List (Text × Int) := []
  pools : List (Text × PoolSource ν) := []
  deriving Repr

/-- A caller's own test of a run. It sees the snapshot, the venues as they stand and what the run
    has done so far, changes none of them, and may refuse or break down. -/
abbrev Predicate (ν : Type) := Snapshot ν → Registry ν → RunState → Except Fault Bool

/-- The snapshot of a run with the caller's predicates. -/
structure Context (ν : Type) extends Snapshot ν where
  predicates : List (Text × Predicate ν) := []

variable {ν : Type}

/-- The predicate with this name, which has to exist. -/
def Context.predicate (ctx : Context ν) (name : Text) : Except Fault (Predicate ν) :=
  match Table.get? name ctx.predicates with
  | some p => .ok p
  | none => refuse (.unknownPredicate name)

/-- What a source that reads where a pool stands finds in a venue. -/
def PoolSource.inVenue? (pool : Key) : Venue ν → Option (PoolSource ν)
  | .paper v => (Table.get? pool v.pools).map snapshot
  | .loose v => (Table.get? pool v.pools).map loose
  | .scripted _ => none

/-- The pool behind a pool of the context, as far as a trade that sells `token` reads it. -/
def PoolSource.reserves [Quantity ν] (token : Name) : PoolSource ν → Engine ν (Pool ν)
  | .snapshot reserves => return reserves
  | .loose record => Engine.ofExcept (record.poolFor token >>= Pool.quantified)
  | .live venue pool => do
    match (Table.get? venue (← get).venues).bind (inVenue? pool) with
    | some (.snapshot reserves) => return reserves
    | some (.loose record) => Engine.ofExcept (record.poolFor token >>= Pool.quantified)
    | _ => Engine.fault (.breakdown .absentKey)

end TradingEngine
