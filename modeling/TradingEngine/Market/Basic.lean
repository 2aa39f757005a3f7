import TradingEngine.Text.Basic

/-! # Venues, pairs and quotes

The nouns of the market: which venues exist, what is traded, what an oracle says about a price and
what a fill returns. Amounts and prices are whole numbers in the smallest unit.
-/

namespace TradingEngine

/-- A venue on which the engine can trade. -/
inductive VenueKind where
  | raydium
  | jupiter
  | serum
  deriving DecidableEq, Repr, Inhabited

namespace VenueKind

def name : VenueKind → String
  | raydium => "raydium"
  | jupiter => "jupiter"
  | serum => "serum"

def all : List VenueKind := [raydium, jupiter, serum]

def ofName? (s : String) : Option VenueKind := all.find? (·.name == s)

/-- How a venue is shown where the engine, and not its caller, asked for it. -/
def shown : VenueKind → String
  | raydium => "VenueKind.RAYDIUM"
  | jupiter => "VenueKind.JUPITER"
  | serum => "VenueKind.SERUM"

@[simp] theorem ofName?_name (k : VenueKind) : ofName? k.name = some k := by
  cases k <;> rfl

end VenueKind

/-- What is bought and sold, and what it is paid in. -/
structure TokenPair where
  base : Text
  quote : Text
  deriving DecidableEq, Repr, Inhabited

/-- The pair as text, which is also the name of its pool on every venue. -/
def TokenPair.symbol (pair : TokenPair) : Text := pair.base ++ "/" ++ pair.quote

/-- One observation of an oracle. Prices are unsigned, with six decimals. -/
structure PriceQuote where
  venue : VenueKind
  feedId : Text
  price : Int
  confidence : Int
  publishTime : Int
  deriving DecidableEq, Repr, Inhabited

/-- The feed under which an oracle files a quote: its own feed, or its venue if it names none. -/
def PriceQuote.feed (q : PriceQuote) : Text :=
  if q.feedId.isEmpty then q.venue.name else q.feedId

/-- A quote that has passed every check, with the time of the check. -/
structure UsablePrice where
  quote : PriceQuote
  validatedAt : Int
  deriving DecidableEq, Repr, Inhabited

/-- What a venue reports of an executed swap. -/
structure Fill where
  amountIn : Int
  amountOut : Int
  deriving DecidableEq, Repr, Inhabited

/-- One executed trade, as a run reports it. -/
structure ExecutedTrade where
  source : Text
  venue : VenueKind
  pool : Text
  tokenIn : Text
  amountIn : Int
  amountOut : Int
  profitLoss : Int
  executedAt : Int
  deriving DecidableEq, Repr, Inhabited

end TradingEngine
