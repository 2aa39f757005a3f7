import TradingEngine.Market.Route
import TradingEngine.Record.Decoder
import TradingEngine.Venue.Reserves

/-! # Records of the market

How pairs, quotes, fills, trades, routes and pools are read from submitted records and written as
named values. A written record has every field, with defaults filled in.
-/

namespace TradingEngine

/-- Reads the name of a venue. -/
def VenueKind.decode : Decoder VenueKind := Decoder.member VenueKind.name VenueKind.all

/-- Reads the name of a route kind. -/
def RouteKind.decode : Decoder RouteKind := Decoder.member RouteKind.name RouteKind.fullMesh

namespace TokenPair

def decode (origin : Origin) : Decoder TokenPair :=
  Decoder.object origin fun fs =>
    TokenPair.mk <$> Decoder.required fs "base" Decoder.text
      <*> Decoder.required fs "quote" Decoder.text

def toJson (p : TokenPair) : Json := .record [("base", .text p.base), ("quote", .text p.quote)]

end TokenPair

namespace PriceQuote

def decode (origin : Origin) : Decoder PriceQuote :=
  Decoder.object origin fun fs =>
    PriceQuote.mk <$> Decoder.required fs "venue" VenueKind.decode
      <*> Decoder.defaulted fs "feed_id" Decoder.text ""
      <*> Decoder.required fs "price" (Decoder.atLeast 0)
      <*> Decoder.required fs "confidence" (Decoder.atLeast 0)
      <*> Decoder.required fs "publish_time" Decoder.int

def toJson (q : PriceQuote) : Json :=
  .record [("venue", .text q.venue.name), ("feed_id", .text q.feedId), ("price", .int q.price),
    ("confidence", .int q.confidence), ("publish_time", .int q.publishTime)]

end PriceQuote

namespace UsablePrice

def decode (origin : Origin) : Decoder UsablePrice :=
  Decoder.object origin fun fs =>
    UsablePrice.mk <$> Decoder.required fs "quote" (PriceQuote.decode origin)
      <*> Decoder.required fs "validated_at" Decoder.int

def toJson (v : UsablePrice) : Json :=
  .record [("quote", v.quote.toJson), ("validated_at", .int v.validatedAt)]

end UsablePrice

def Fill.decode (origin : Origin) : Decoder Fill :=
  Decoder.object origin fun fs =>
    Fill.mk <$> Decoder.required fs "amount_in" Decoder.int
      <*> Decoder.required fs "amount_out" Decoder.int

namespace ExecutedTrade

def decode (origin : Origin) (clock : Except Breakdown Int) : Decoder ExecutedTrade :=
  Decoder.object origin fun fs =>
    ExecutedTrade.mk <$> Decoder.required fs "source" Decoder.text
      <*> Decoder.required fs "venue" VenueKind.decode
      <*> Decoder.required fs "pool" Decoder.text
      <*> Decoder.required fs "token_in" Decoder.text
      <*> Decoder.required fs "amount_in" Decoder.int
      <*> Decoder.required fs "amount_out" Decoder.int
      <*> Decoder.defaulted fs "profit_loss" Decoder.int 0
      <*> Decoder.defaultedBy fs "executed_at" Decoder.int clock

def toJson (t : ExecutedTrade) : Json :=
  .record [("source", .text t.source), ("venue", .text t.venue.name), ("pool", .text t.pool),
    ("token_in", .text t.tokenIn), ("amount_in", .int t.amountIn),
    ("amount_out", .int t.amountOut), ("profit_loss", .int t.profitLoss),
    ("executed_at", .int t.executedAt)]

end ExecutedTrade

namespace ArbitrageRoute

def decode (origin : Origin) : Decoder ArbitrageRoute :=
  Decoder.object origin fun fs =>
    ArbitrageRoute.mk <$> Decoder.required fs "route_kind" RouteKind.decode
      <*> Decoder.required fs "token_pair" (TokenPair.decode origin)
      <*> Decoder.required fs "entry_venue" VenueKind.decode
      <*> Decoder.required fs "exit_venue" VenueKind.decode
      <*> Decoder.required fs "expected_profit_bps" Decoder.int
      <*> Decoder.required fs "min_profit_bps" Decoder.int
      <*> Decoder.required fs "max_slippage_bps" Decoder.int
      <*> Decoder.required fs "deadline" Decoder.int

def toJson (r : ArbitrageRoute) : Json :=
  .record [("route_kind", .text r.routeKind.name), ("token_pair", r.pair.toJson),
    ("entry_venue", .text r.entryVenue.name), ("exit_venue", .text r.exitVenue.name),
    ("expected_profit_bps", .int r.expectedProfitBps), ("min_profit_bps", .int r.minProfitBps),
    ("max_slippage_bps", .int r.maxSlippageBps), ("deadline", .int r.deadline)]

end ArbitrageRoute

namespace Pool

variable {ν : Type} [Quantity ν]

def decode (origin : Origin) : Decoder (Pool ν) :=
  Decoder.object origin fun fs =>
    (fun tokenA tokenB reserveA reserveB fee shares =>
        { tokenA := .text tokenA, tokenB := .text tokenB
          reserveA := Quantity.ofInt reserveA, reserveB := Quantity.ofInt reserveB
          feeBps := Quantity.ofInt fee, lpSupply := Quantity.ofInt shares })
      <$> Decoder.required fs "token_a" Decoder.text
      <*> Decoder.required fs "token_b" Decoder.text
      <*> Decoder.required fs "reserve_a" (Decoder.atLeast 0)
      <*> Decoder.required fs "reserve_b" (Decoder.atLeast 0)
      <*> Decoder.defaulted fs "fee_bps" (Decoder.within 0 10000) 30
      <*> Decoder.defaulted fs "lp_supply" (Decoder.atLeast 0) 0

def toJson (p : Pool ν) : Json :=
  .record [("token_a", p.tokenA), ("token_b", p.tokenB),
    ("reserve_a", Quantity.toJson p.reserveA), ("reserve_b", Quantity.toJson p.reserveB),
    ("fee_bps", Quantity.toJson p.feeBps), ("lp_supply", Quantity.toJson p.lpSupply)]

end Pool

end TradingEngine
