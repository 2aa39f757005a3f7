import TradingEngine.Record.Account

/-! # Records of requests

What the control surface is asked: to scan quotes for routes, and to plan a rebalancing.
-/

namespace TradingEngine

/-- A request to look for routes among quotes. -/
structure ScanRequest where
  pair : TokenPair
  quotes : List PriceQuote
  minProfitBps : Int
  routeKinds : List RouteKind
  now : Option Int
  deriving DecidableEq, Repr

namespace ScanRequest

def decode (origin : Origin) : Decoder ScanRequest :=
  Decoder.object origin fun fs =>
    ScanRequest.mk <$> Decoder.required fs "pair" (TokenPair.decode origin)
      <*> Decoder.required fs "quotes" (Decoder.list (PriceQuote.decode origin))
      <*> Decoder.required fs "min_profit_bps" (Decoder.within 0 10000)
      <*> Decoder.defaulted fs "route_kinds" (Decoder.list RouteKind.decode) RouteKind.defaultCycle
      <*> Decoder.optionalField fs "now" Decoder.int

def toJson (r : ScanRequest) : Json :=
  .record [("pair", r.pair.toJson), ("quotes", .list (r.quotes.map PriceQuote.toJson)),
    ("min_profit_bps", .int r.minProfitBps),
    ("route_kinds", .strings (r.routeKinds.map RouteKind.name)), ("now", .ofOption .int r.now)]

end ScanRequest

/-- A request to plan a rebalancing of what venues hold. -/
structure PlanRequest where
  current : List (VenueKind × Int)
  targets : List LiquidityTarget
  deriving DecidableEq, Repr

namespace PlanRequest

def decode (origin : Origin) : Decoder PlanRequest :=
  Decoder.object origin fun fs =>
    PlanRequest.mk
      <$> Decoder.required fs "current" (Decoder.keyedTable VenueKind.decode Decoder.int)
      <*> Decoder.required fs "targets" (Decoder.list (LiquidityTarget.decode origin))

def toJson (r : PlanRequest) : Json :=
  .record [("current", .record (r.current.map fun (venue, amount) => (venue.name, .int amount))),
    ("targets", .list (r.targets.map LiquidityTarget.toJson))]

end PlanRequest

end TradingEngine
