import TradingEngine.World

/-! # Usable prices

The gate between raw quotes and everyone who uses a price: a quote has to be fresh, and its
confidence neither too wide, absolutely or relative to the price, nor implausibly tight. Beside it
the mean price of a window.
-/

namespace TradingEngine

open Quantity

variable {ν : Type} [Quantity ν]

/-- The limits that a quote is held to, beside its age and its absolute confidence. -/
structure PriceLimits (ν : Type) where
  maxRelativeConfidenceBps : ν
  minConfidence : ν
  deriving DecidableEq, Repr

/-- The limits that the settings give where a caller gives none. -/
def PriceLimits.ofSettings (s : Settings ν) (relative floor : Option ν) :
    Except Fault (PriceLimits ν) :=
  return ⟨← orHeld relative s.maxRelativeConfidenceBps, ← orHeld floor s.minConfidence⟩

/-- The limits that a list of up to two gives; a limit that is missing or `null` is not given. -/
def PriceLimits.ofList (s : Settings Json) (given : List Json) :
    Except Fault (PriceLimits Json) :=
  match given.map fun v => if v == .null then none else some v with
  | [] => ofSettings s none none
  | [relative] => ofSettings s relative none
  | [relative, floor] => ofSettings s relative floor
  | _ => .error (.breakdown .wrongType)

/-- A quote that was found usable. The time of the check has to be a whole number. -/
def UsablePrice.ofQuantity (quote : PriceQuote) (validatedAt : ν) : Except Fault UsablePrice :=
  (UsablePrice.mk quote <$> Decoder.field "validated_at" validatedAt).orFault .usablePrice

@[simp] theorem UsablePrice.ofQuantity_int (quote : PriceQuote) (validatedAt : Int) :
    UsablePrice.ofQuantity quote validatedAt = .ok ⟨quote, validatedAt⟩ := rfl

namespace PriceQuote

def age (q : PriceQuote) (now : ν) : Except Fault ν := sub now (ofInt q.publishTime)

/-- Whether the confidence of a quote is too wide for its price. -/
def isWide (limits : PriceLimits ν) (q : PriceQuote) : Except Fault Bool := do
  if q.price = 0 then return true
  let price : ν := ofInt q.price.natAbs
  lt (← mul price limits.maxRelativeConfidenceBps) (ofInt (q.confidence * bpsWhole))

/-- The first check that a quote fails, if it fails one. -/
def fault? (limits : PriceLimits ν) (maxStaleness maxConfidence now : ν) (q : PriceQuote) :
    Except Fault (Option Cause) := do
  let age ← q.age now
  if ← lt maxStaleness age then
    return some (.stalePrice (Quantity.toJson age) (Quantity.toJson maxStaleness))
  if ← lt maxConfidence (ofInt q.confidence) then
    return some (.lowConfidence q.confidence (Quantity.toJson maxConfidence))
  if ← q.isWide limits then return some (.wideConfidence q.confidence q.price)
  if ← lt (ofInt q.confidence) limits.minConfidence then
    return some (.tightConfidence q.confidence (Quantity.toJson limits.minConfidence))
  return none

/-- Passes a quote that fails no check. A refused quote is counted and journalled. The two limits
    that a caller may leave out default to the settings. -/
def validate (limits : PriceLimits ν) (maxStaleness maxConfidence : Option ν) (now : ν)
    (q : PriceQuote) : Engine ν UsablePrice := do
  let s ← Engine.settings
  let stale ← Engine.ofExcept (orHeld maxStaleness s.maxStalenessSeconds)
  let wide ← Engine.ofExcept (orHeld maxConfidence s.maxConfidence)
  match ← Engine.ofExcept (q.fault? limits stale wide now) with
  | none => Engine.ofExcept (UsablePrice.ofQuantity q now)
  | some cause =>
    if let .breakdown b := cause.fault then Engine.fault (.breakdown b)
    Engine.count (.quotesRejected cause.kind)
    let age ← Engine.ofExcept (q.age now)
    Engine.log .warning "QUOTE_REJECTED"
      [("venue", .text q.venue.name), ("feed_id", .text q.feedId), ("code", .text cause.kind.code),
        ("price", .int q.price), ("confidence", .int q.confidence), ("age", Quantity.toJson age)]
    Engine.fail cause

/-- Passes every quote or stops at the first refused one. Of two quotes of one venue the later
    counts, in the place of the earlier. -/
def validateAll (limits : PriceLimits ν) (maxStaleness maxConfidence : Option ν) (now : ν)
    (quotes : List PriceQuote) : Engine ν (List (VenueKind × UsablePrice)) :=
  quotes.foldlM (fun prices q => do
    let price ← q.validate limits maxStaleness maxConfidence now
    return Table.put q.venue price prices) []

end PriceQuote

namespace Twap

/-- Whether a sample lies in the window of the last `period` seconds. -/
def inWindow (period now : ν) (sample : PriceQuote) : Except Fault Bool := do
  le (← sample.age now) period

/-- The running sum and count of the samples in the window. The sum stays a signed 128-bit
    number. -/
def accumulate (period now : ν) :
    Int → Int → List PriceQuote → Except Fault (Int × Int)
  | total, count, [] => .ok (total, count)
  | total, count, sample :: rest => do
    if ← inWindow period now sample then
      let total := total + sample.price
      if total > i128Max || total < i128Min then refuse (.averageTooLarge (count + 1))
      accumulate period now total (count + 1) rest
    else accumulate period now total count rest

/-- The mean price of the samples in the window, rounded down. -/
def mean (history : List PriceQuote) (period now : ν) : Except Fault Int := do
  let (total, count) ← accumulate period now 0 0 history
  if count = 0 then refuse (.noSamples (Quantity.toJson period))
  return total.fdiv count

end Twap

end TradingEngine
