import TradingEngine.Market.Execution
import TradingEngine.Venue.Loose

/-! # Venues and their registry

Two kinds of venue can be registered: a paper venue, which executes against pools it holds, and a
scripted venue, which fills at preset rates and records every executed call. A paper venue becomes a
loose one when one of its pools is changed by hand. The registry keeps one
venue per kind in the order of first registration. A venue's own kind, under which it reports, may
differ from the kind it is registered under.
-/

namespace TradingEngine

variable {ν : Type} [Quantity ν]

open Quantity

/-- Pools under the names that they were given. -/
structure PoolTable (ν : Type) where
  pools : List (Key × Pool ν) := []
  /-- The names of the pools, as they were first written. -/
  names : List Name := []
  deriving BEq, Repr

/-- Files a pool under a name. One that was filed there gives way to it, and the name stays. -/
def PoolTable.file {ν : Type} (name : Name) (pool : Pool ν) (t : PoolTable ν) :
    Except Breakdown (PoolTable ν) := do
  let key ← Key.ofName name
  let names := if (Table.get? key t.pools).isSome then t.names else t.names ++ [name]
  return ⟨Table.put key pool t.pools, names⟩

/-- A venue that holds constant-product pools. -/
structure PaperVenue (ν : Type) extends PoolTable ν where
  kind : VenueKind
  deriving BEq, Repr

/-- A paper venue with pools that are changed by hand. -/
structure LooseVenue where
  kind : VenueKind
  pools : List (Key × LooseRecord)
  /-- The names of the pools, as they were first written. -/
  names : List Name
  deriving BEq, Repr

/-- A call that a scripted venue has executed. -/
inductive VenueCall (ν : Type) where
  | swap (pool tokenIn : Name) (amountIn minimumOut slippageBps amountOut : ν)
  | deposit (pool : Name) (amountA : ν) (amountB : Option ν)
  | withdraw (pool : Name) (amountA : ν)
  deriving BEq, Repr

/-- A call as it is recorded. -/
def VenueCall.report : VenueCall ν → Json
  | .swap pool token amountIn minimumOut slippage amountOut =>
    .record [("op", .string "swap"), ("pool", pool), ("token_in", token),
      ("amount_in", toJson amountIn), ("minimum_out", toJson minimumOut),
      ("slippage_bps", toJson slippage), ("amount_out", toJson amountOut)]
  | .deposit pool a b =>
    .record [("op", .string "add_liquidity"), ("pool", pool), ("amount_a", toJson a),
      ("amount_b", .ofOption toJson b)]
  | .withdraw pool a =>
    .record [("op", .string "remove_liquidity"), ("pool", pool), ("amount_a", toJson a)]

/-- A venue whose fills are scripted. -/
structure ScriptedVenue (ν : Type) where
  kind : VenueKind
  /-- Output per unit of input, as numerator and denominator, under the key of a pool and the token
      sold there. -/
  rates : List (Text × ν × ν) := []
  /-- The part of a quote that is lost between quote and fill. -/
  haircutBps : ν
  calls : List (VenueCall ν) := []
  /-- Whether the next call breaks down. -/
  failsNext : Bool := false
  deriving BEq, Repr

inductive Venue (ν : Type) where
  | paper (venue : PaperVenue ν)
  | loose (venue : LooseVenue)
  | scripted (venue : ScriptedVenue ν)
  deriving BEq, Repr

/-- The kind under which a venue reports. -/
def Venue.kind {ν : Type} : Venue ν → VenueKind
  | .paper v => v.kind
  | .loose v => v.kind
  | .scripted v => v.kind

namespace ScriptedVenue

def rateKey (pool token : Name) : Except Fault Text :=
  return (← pool.inWords) ++ ":" ++ (← token.inWords)

def quote (v : ScriptedVenue ν) (pool token : Name) (amountIn : ν) : Except Fault ν := do
  let key ← rateKey pool token
  match Table.get? key v.rates with
  | none => refuse (.noRate key)
  | some (numerator, denominator) => floorDiv (← mul amountIn numerator) denominator

/-- What is paid of a quote. -/
def paid (v : ScriptedVenue ν) (quoted : ν) : Except Fault ν := do
  floorDiv (← mul quoted (← sub (ofInt bpsWhole) v.haircutBps)) (ofInt bpsWhole)

end ScriptedVenue

namespace PaperVenue

/-- The pool of a paper venue, which has to exist. -/
def pool {ν : Type} (v : PaperVenue ν) (name : Name) : Except Fault (Pool ν) :=
  match Table.keyed? name v.pools with
  | .ok (some reserves) => .ok reserves
  | .ok none => refuse (.unknownPool name v.kind)
  | .error b => .error (.breakdown b)

def quote (v : PaperVenue ν) (pool token : Name) (amountIn : ν) : Except Fault ν := do
  let reserves ← v.pool pool
  reserves.quote token amountIn

/-- The venue with its pools as records that can be changed by hand. -/
def loose (v : PaperVenue ν) : LooseVenue :=
  { kind := v.kind, names := v.names, pools := v.pools.map fun (key, pool) => (key, pool.loose) }

end PaperVenue

namespace LooseVenue

/-- The pool of a loose venue, which has to exist. -/
def pool (v : LooseVenue) (name : Name) : Except Fault LooseRecord :=
  match Table.keyed? name v.pools with
  | .ok (some record) => .ok record
  | .ok none => refuse (.unknownPool name v.kind)
  | .error b => .error (.breakdown b)

def quote (v : LooseVenue) (pool token : Name) (amountIn : Json) : Except Fault Json := do
  (← v.pool pool).quote token amountIn

end LooseVenue

/-- The registered venues, one per kind. -/
abbrev Registry (ν : Type) := List (VenueKind × Venue ν)

end TradingEngine
