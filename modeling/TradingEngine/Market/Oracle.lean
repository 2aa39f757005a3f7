import TradingEngine.Market.Pricing

/-! # A snapshot of quotes

What an oracle knew when a caller took a snapshot of it: the last quote of each feed, and each
feed's samples, where the samples of the quotes come before those of the history.
-/

namespace TradingEngine

/-- The quotes and the history of a snapshot, and when it was taken. -/
structure Oracle (ν : Type) where
  now : ν
  quotes : List PriceQuote := []
  history : List PriceQuote := []
  deriving DecidableEq, Repr

variable {ν : Type}

namespace Oracle

/-- The last quote of every feed. -/
def byFeed (o : Oracle ν) : List (Text × PriceQuote) :=
  o.quotes.reverse.map fun q => (q.feed, q)

def quote (o : Oracle ν) (feed : Name) : Except Fault PriceQuote :=
  match Table.named? feed o.byFeed with
  | .ok (some q) => .ok q
  | .ok none => refuse (.noQuote feed)
  | .error b => .error (.breakdown b)

/-- Every sample of a feed, in the order in which they were filed. -/
def filed (o : Oracle ν) (feed : Name) : Except Fault (List PriceQuote) :=
  match feed with
  | .text key => .ok ((o.quotes ++ o.history).filter (·.feed == key))
  | .list _ | .record _ => .error (.breakdown .wrongType)
  | _ => .ok []

/-- The samples of a feed published within `window` seconds of `now`, oldest first; samples of one
    second keep their order. -/
def samples [Quantity ν] (o : Oracle ν) (feed : Name) (window now : ν) :
    Except Fault (List PriceQuote) := do
  let recent ← (← o.filed feed).filterM (Twap.inWindow window now)
  return recent.mergeSort fun a b => a.publishTime ≤ b.publishTime

end Oracle

end TradingEngine
