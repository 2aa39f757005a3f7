import TradingEngine.Market.Basic

/-! # Arbitrage routes

An arbitrage buys the base token on one venue and sells it on another. A route kind is the ordered
pair of venues; a route is a kind that a price comparison has found worth while, with the limits
under which it may be executed.
-/

namespace TradingEngine

/-- An ordered pair of different venues: buy on the first, sell on the second. -/
inductive RouteKind where
  | raydiumJupiter
  | jupiterSerum
  | serumRaydium
  | jupiterRaydium
  | serumJupiter
  | raydiumSerum
  deriving DecidableEq, Repr, Inhabited

namespace RouteKind

/-- Where the base token is bought. -/
def entryVenue : RouteKind → VenueKind
  | raydiumJupiter | raydiumSerum => .raydium
  | jupiterSerum | jupiterRaydium => .jupiter
  | serumRaydium | serumJupiter => .serum

/-- Where the base token is sold. -/
def exitVenue : RouteKind → VenueKind
  | serumRaydium | jupiterRaydium => .raydium
  | raydiumJupiter | serumJupiter => .jupiter
  | jupiterSerum | raydiumSerum => .serum

def name : RouteKind → String
  | raydiumJupiter => "raydium_jupiter"
  | jupiterSerum => "jupiter_serum"
  | serumRaydium => "serum_raydium"
  | jupiterRaydium => "jupiter_raydium"
  | serumJupiter => "serum_jupiter"
  | raydiumSerum => "raydium_serum"

/-- Every ordered pair of different venues. -/
def fullMesh : List RouteKind :=
  [raydiumJupiter, jupiterSerum, serumRaydium, jupiterRaydium, serumJupiter, raydiumSerum]

/-- The smallest cycle through all venues, which is searched unless more is asked for. -/
def defaultCycle : List RouteKind := [raydiumJupiter, jupiterSerum, serumRaydium]

def ofName? (s : String) : Option RouteKind := fullMesh.find? (·.name == s)

end RouteKind

/-- A route that may be executed until its deadline. -/
structure ArbitrageRoute where
  routeKind : RouteKind
  pair : TokenPair
  entryVenue : VenueKind
  exitVenue : VenueKind
  expectedProfitBps : Int
  minProfitBps : Int
  maxSlippageBps : Int
  deadline : Int
  deriving DecidableEq, Repr

end TradingEngine
