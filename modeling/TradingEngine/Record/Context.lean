import TradingEngine.Record.Account

/-! # Records of a run's context

A context is read from its fields: limits, totals, time, balances, volumes and pools. The oracle and
the predicates are no records and are handed over as they are, and so are the totals and the pools
that a caller keeps.
-/

namespace TradingEngine.Context

variable {ν : Type} [Quantity ν]

/-- What a context takes over as it is. -/
structure Kept (ν : Type) where
  oracle : Oracle ν
  predicates : List (Text × Predicate ν) := []
  /-- The totals, if they are not to be read from a record. -/
  metrics : Option (Metrics ν) := none
  /-- The pools that are not to be read from records. -/
  pools : List (Text × PoolSource ν) := []

/-- The totals of a context. -/
def totals (origin : Origin) (kept : Kept ν) (fs : Fields) : Decoded (Metrics ν) :=
  match kept.metrics with
  | some metrics => .value metrics
  | none => Decoder.defaulted fs "metrics" (Metrics.decode origin) Metrics.none

/-- Reads a context. A context without a time is one of `clock`. -/
def decode (origin : Origin) (clock : Except Breakdown Int) (kept : Kept ν) (fs : Fields) :
    Decoded (Context ν) :=
  (fun risk metrics now balances volumes pools =>
    { oracle := kept.oracle, predicates := kept.predicates, risk, metrics, now, balances, volumes
      pools := kept.pools ++ pools })
    <$> Decoder.required fs "risk" (RiskLimits.decode origin)
    <*> totals origin kept fs
    <*> Decoder.defaultedBy fs "now" Decoder.int clock
    <*> Decoder.defaulted fs "balances" (Decoder.table Decoder.int) []
    <*> Decoder.defaulted fs "volumes" (Decoder.table Decoder.int) []
    <*> Decoder.defaulted fs "pools"
      (Decoder.table fun j => (Pool.decode origin j).map PoolSource.snapshot) []

/-- Reads a context that is written from end to end. There is none: an oracle, venues and predicates
    cannot be written down, so that this tells everything that is wrong. -/
def decodeWritten (origin : Origin) (clock : Except Breakdown Int) : Decoder Unit :=
  Decoder.object origin fun fs =>
    let handedOver : Decoder Unit := fun _ => .problem .instanceType
    (fun () () _ _ _ _ _ _ _ => ())
      <$> Decoder.required fs "oracle" handedOver
      <*> Decoder.defaulted fs "venues" handedOver ()
      <*> Decoder.required fs "risk" (RiskLimits.decode origin)
      <*> Decoder.defaulted fs "metrics" (Metrics.decode origin) (Metrics.none : Metrics Int)
      <*> Decoder.defaultedBy fs "now" Decoder.int clock
      <*> Decoder.defaulted fs "balances" (Decoder.table Decoder.int) []
      <*> Decoder.defaulted fs "volumes" (Decoder.table Decoder.int) []
      <*> Decoder.defaulted fs "pools"
        (Decoder.table (Pool.decode origin : Decoder (Pool Int))) []
      <*> Decoder.defaulted fs "predicates"
        (Decoder.table fun _ => (.problem .callableType : Decoded Unit)) []

end TradingEngine.Context
