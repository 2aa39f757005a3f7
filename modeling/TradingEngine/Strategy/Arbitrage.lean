import TradingEngine.Strategy.Context
import TradingEngine.Venue.Trade

/-! # Arbitrage

Finds the routes on which one venue's price is enough above another's, and executes a route as a buy
on its entry venue and a sale on its exit venue. Finding a route touches no venue.
-/

namespace TradingEngine

open Quantity

/-- What a search for routes is limited to. -/
structure RouteSearch (ν : Type) where
  kinds : List RouteKind := RouteKind.defaultCycle
  maxSlippageBps : ν
  deadlineSeconds : ν
  deriving DecidableEq, Repr

variable {ν : Type} [Quantity ν]

namespace RouteSearch

/-- A search with the limits that the settings give where a caller gives none. -/
def ofSettings (s : Settings ν) (kinds : List RouteKind)
    (maxSlippageBps deadlineSeconds : Option ν) : Except Fault (RouteSearch ν) :=
  return ⟨kinds, ← orHeld maxSlippageBps s.routeMaxSlippageBps,
    ← orHeld deadlineSeconds s.routeDeadlineSeconds⟩

/-- The profit of a route of this kind in basis points, if the exit price is above the entry price
    by at least the minimum. -/
def profit? (entry exit : Int) (minProfitBps : ν) : Except Fault (Option Int) := do
  if exit ≤ entry then return none
  let expected ← ConstantProduct.profitBps entry exit
  if ← le minProfitBps (ofInt expected) then return some expected
  return none

/-- The route of this kind with this profit. Its limits have to be whole numbers. -/
def route (search : RouteSearch ν) (minProfitBps : ν) (pair : TokenPair) (now : ν)
    (kind : RouteKind) (expectedProfitBps : Int) : Except Fault ArbitrageRoute := do
  let deadline ← add now search.deadlineSeconds
  ((fun minProfitBps maxSlippageBps deadline =>
      { routeKind := kind, pair, entryVenue := kind.entryVenue, exitVenue := kind.exitVenue
        expectedProfitBps, minProfitBps, maxSlippageBps, deadline })
    <$> Decoder.field "min_profit_bps" minProfitBps
    <*> Decoder.field "max_slippage_bps" search.maxSlippageBps
    <*> Decoder.field "deadline" deadline).orFault .route

/-- Looks for the route of one kind; a route that is found is counted and journalled. A price is
    taken as the whole number that it comes to. -/
def tryKind (search : RouteSearch ν) (prices : List (VenueKind × ν)) (minProfitBps : ν)
    (pair : TokenPair) (now : ν) (kind : RouteKind) : Engine ν (Option ArbitrageRoute) := do
  match Table.get? kind.entryVenue prices, Table.get? kind.exitVenue prices with
  | some atEntry, some atExit =>
    let entry ← Engine.ofExcept (truncated atEntry)
    let exit ← Engine.ofExcept (truncated atExit)
    match ← Engine.ofExcept (profit? entry exit minProfitBps) with
    | none => return none
    | some expected =>
      let route ← Engine.ofExcept (search.route minProfitBps pair now kind expected)
      Engine.count (.routesFound kind)
      Engine.log .info "ARB_ROUTE_FOUND"
        [("route_kind", .text kind.name), ("pair", .text pair.symbol), ("price_a", .int entry),
          ("price_b", .int exit), ("expected_profit_bps", .int expected)]
      return some route
  | _, _ =>
    Engine.log .debug "ROUTE_SKIPPED_NO_QUOTE" [("route_kind", .text kind.name)]
    return none

/-- The routes of the kinds searched, in their order and multiplicity. -/
def find (search : RouteSearch ν) (prices : List (VenueKind × ν)) (minProfitBps : ν)
    (pair : TokenPair) (now : ν) : Engine ν (List ArbitrageRoute) :=
  search.kinds.filterMapM (search.tryKind prices minProfitBps pair now)

end RouteSearch

/-- The prices of validated quotes, as a search takes them. -/
def UsablePrice.prices (prices : List (VenueKind × UsablePrice)) : List (VenueKind × ν) :=
  prices.map fun (venue, price) => (venue, ofInt price.quote.price)

namespace ArbitrageRoute

/-- Keeps the routes of at least this profit. -/
def profitable (minProfitBps : ν) (routes : List ArbitrageRoute) :
    Except Fault (List ArbitrageRoute) :=
  routes.filterM fun r => le minProfitBps (ofInt r.expectedProfitBps)

/-- The first of the most profitable routes. -/
def best? : List ArbitrageRoute → Option ArbitrageRoute
  | [] => none
  | r :: rest =>
    some (rest.foldl
      (fun best c => if c.expectedProfitBps > best.expectedProfitBps then c else best) r)

/-- What has to hold before a route is executed: trading is not halted, the route has not expired,
    it promises its minimum, and its slippage is within the cap. -/
def preflight (route : ArbitrageRoute) (now : Int) : Engine ν ν := do
  HaltSwitch.check
  if now > route.deadline then Engine.fail (.routeExpired route.routeKind.name route.deadline now)
  if route.expectedProfitBps < route.minProfitBps then
    Engine.fail
      (.routeBelowMinimum route.routeKind.name route.expectedProfitBps route.minProfitBps)
  Engine.ofExcept (Guard.slippage (← Engine.settings) (ofInt route.maxSlippageBps))

/-- One leg of a route: a quote, and a swap that pays at least the quote less the slippage. -/
def leg (venue : VenueKind) (pool token : Text) (amountIn slippage : ν) : Engine ν Fill := do
  let expected ← Trade.quote venue (.text pool) (.text token) amountIn
  let minimum ← Engine.ofExcept (ConstantProduct.haircut expected slippage)
  Trade.swap venue (.text pool) (.text token) amountIn (some minimum) slippage

/-- Sells what the entry leg has bought. If that fails, the failure carries the entry fill: the
    caller now holds an amount that was not meant to be kept. -/
def sell (route : ArbitrageRoute) (bought : Fill) (amountIn slippage : ν) : Engine ν Fill := do
  let pool := route.pair.symbol
  match ← (leg route.exitVenue pool route.pair.base (ofInt bought.amountOut) slippage).attempt with
  | .ok fill => return fill
  | .error (.failure failure) =>
    Engine.log .error "ARB_OPEN_POSITION"
      [("route_kind", .text route.routeKind.name), ("venue", .text route.entryVenue.name),
        ("pool", .text pool), ("token", .text route.pair.base),
        ("amount", .int bought.amountOut), ("quote_spent", Quantity.toJson amountIn),
        ("code", .text failure.code), ("error", .text failure.message)]
    Engine.fault (.failure { failure with entryFill := some bought })
  | .error other => Engine.fault other

/-- Buys the base token with `amountIn` of the quote token on the entry venue and sells it on the
    exit venue. Nothing is traded when the risk gate refuses. -/
def execute (route : ArbitrageRoute) (amountIn : ν) (ctx : Context ν) :
    Engine ν (Option ExecutedTrade) := do
  let slippage ← route.preflight ctx.now
  if !(← ctx.risk.allow ctx.metrics amountIn) then return none
  let pool := route.pair.symbol
  Registry.require route.entryVenue
  Registry.require route.exitVenue
  let bought ← leg route.entryVenue pool route.pair.quote amountIn slippage
  let sold ← route.sell bought amountIn slippage
  let amountOut : ν := ofInt sold.amountOut
  let profitLoss ← Engine.ofExcept (sub amountOut amountIn)
  let result ← Engine.ofExcept
    (ExecutedTrade.ofQuantities route.routeKind.name route.exitVenue pool route.pair.quote
      amountIn amountOut profitLoss ctx.now)
  Engine.count (.tradesExecuted .arbitrage)
  Engine.log .info "ARB_ROUTE_EXECUTED"
    [("route_kind", .text route.routeKind.name), ("amount_in", Quantity.toJson amountIn),
      ("base_bought", .int bought.amountOut), ("amount_out", .int sold.amountOut),
      ("profit_loss", .int result.profitLoss)]
  return some result

end ArbitrageRoute

/-- What an arbitrage run has found and done. -/
structure ArbitrageReport where
  routes : List ArbitrageRoute := []
  executed : Option ExecutedTrade := none
  error : Option Failure := none
  /-- The fill of an entry leg whose exit leg failed. -/
  openFill : Option Fill := none
  deriving BEq, Repr

/-- A strategy that reads one feed per venue and executes the best route among them. -/
structure Arbitrageur (ν : Type) where
  pair : TokenPair
  feeds : List (VenueKind × Name)
  tradeAmount : ν
  minProfitBps : ν
  search : RouteSearch ν
  limits : PriceLimits ν
  executes : Bool := true
  maxStaleness : Option ν := none
  maxConfidence : Option ν := none
  deriving Repr

namespace Arbitrageur

def name {ν : Type} (s : Arbitrageur ν) : Text :=
  "Arbitrage_" ++ s.pair.base ++ "_" ++ s.pair.quote

/-- A strategy with the limits that the settings give, as it is announced. A venue given two feeds
    keeps its place and takes the later one. -/
def launch (pair : TokenPair) (feeds : List (VenueKind × Name)) (tradeAmount minProfitBps : ν)
    (kinds : List RouteKind) (executes : Bool) (maxStaleness maxConfidence : Option ν) :
    Engine ν (Arbitrageur ν) := do
  let settings ← Engine.settings
  let search ← Engine.ofExcept (RouteSearch.ofSettings settings kinds none none)
  let limits ← Engine.ofExcept (PriceLimits.ofSettings settings none none)
  let s : Arbitrageur ν :=
    { pair, feeds := feeds.foldl (fun table (venue, feed) => Table.put venue feed table) []
      tradeAmount, minProfitBps, search, limits, executes, maxStaleness, maxConfidence }
  Engine.log .info "STRATEGY_INITIALIZED_Arbitrage"
    [("strategy_name", .text s.name), ("venues", .strings (s.feeds.map (·.1.name))),
      ("min_profit_bps", Quantity.toJson minProfitBps)]
  return s

/-- The validated price of every feed; the first one that cannot be used ends the search. -/
def collect (s : Arbitrageur ν) (ctx : Context ν) :
    Engine ν (List (VenueKind × UsablePrice)) := do
  s.feeds.mapM fun (venue, feed) => do
    let quote ← Engine.ofExcept (ctx.oracle.quote feed)
    return (venue, ← quote.validate s.limits s.maxStaleness s.maxConfidence (ofInt ctx.now))

/-- The prices of the feeds. A search abandoned for its market data is journalled. -/
def prices (s : Arbitrageur ν) (ctx : Context ν) : Engine ν (List (VenueKind × ν)) := do
  match ← (s.collect ctx).attempt with
  | .ok found => return UsablePrice.prices found
  | .error (.failure failure) =>
    if failure.kind.isA .marketData then
      Engine.log .error "ARB_SEARCH_ABORTED"
        [("strategy_name", .text s.name), ("code", .text failure.code),
          ("error", .text failure.message)]
    Engine.fault (.failure failure)
  | .error other => Engine.fault other

/-- Executes a route. A guard that stops it becomes part of the outcome, with the open position that
    it may leave; every other fault is handed on. -/
def attempt (s : Arbitrageur ν) (routes : List ArbitrageRoute) (route : ArbitrageRoute)
    (ctx : Context ν) : Engine ν ArbitrageReport := do
  match ← (route.execute s.tradeAmount ctx).attempt with
  | .ok executed => return { routes, executed }
  | .error (.failure failure) =>
    if failure.kind.isA .economicGuard then
      Engine.log .error "ARB_ROUTE_FAILED"
        [("route_kind", .text route.routeKind.name), ("code", .text failure.code),
          ("error", .text failure.message)]
      return { routes, error := some failure, openFill := failure.entryFill }
    else Engine.fault (.failure failure)
  | .error other => Engine.fault other

/-- Searches for routes and, if the strategy executes, trades the best one. -/
def run (s : Arbitrageur ν) (ctx : Context ν) : Engine ν ArbitrageReport := do
  HaltSwitch.check
  let prices ← s.prices ctx
  let found ← s.search.find prices s.minProfitBps s.pair (ofInt ctx.now)
  let routes ← Engine.ofExcept (ArbitrageRoute.profitable s.minProfitBps found)
  match s.executes, ArbitrageRoute.best? routes with
  | true, some best => s.attempt routes best ctx
  | _, _ => return { routes }

end Arbitrageur

end TradingEngine
