import TradingEngine.Venue.Trade

/-! # Upkeep of registered venues

What is done to a venue from outside of trading: a paper venue's pools are changed by hand, and a
scripted venue is told what to do next. Upkeep asks for a venue of its own kind and breaks down at
any other.
-/

namespace TradingEngine

variable {ν : Type} [Quantity ν]

/-- The key of a pool that has to be there. -/
def LooseVenue.poolKey (v : LooseVenue) (name : Name) : Except Breakdown Key := do
  let key ← Key.ofName name
  if (Table.get? key v.pools).isSome then return key else .error .absentKey

namespace Registry

/-- The venue with pools that is registered under `kind`, ready to be changed by hand. -/
def looseVenue (kind : VenueKind) : Engine ν LooseVenue := do
  match Table.get? kind (← get).venues with
  | some (.paper v) => return v.loose
  | some (.loose v) => return v
  | _ => Engine.fault (.breakdown .absentAttribute)

/-- The kind of a venue with pools and the key of one of them. -/
def poolOf (venue pool : Name) : Engine ν (VenueKind × Key) := do
  let kind ← named venue
  return (kind, ← Engine.ofBreakdown ((← looseVenue kind).poolKey pool))

/-- Puts a value under a name into a pool of the venue under `kind`. -/
def assign (kind : VenueKind) (pool : Key) (name : Text) (value : Json) : Engine ν Unit := do
  let v ← looseVenue kind
  if let some record := Table.get? pool v.pools then
    let (ended, changed) := record.assign name value
    store kind (.loose { v with pools := Table.put pool changed v.pools })
    Engine.ofBreakdown ended

/-- Changes the script of the scripted venue under `kind`. -/
def script (kind : VenueKind) (change : ScriptedVenue ν → Except Fault (ScriptedVenue ν)) :
    Engine ν Unit := do
  match Table.get? kind (← get).venues with
  | some (.scripted v) => store kind (.scripted (← Engine.ofExcept (change v)))
  | _ => Engine.fault (.breakdown .absentAttribute)

end Registry

/-- A rate as it is written in a row: pool, token, numerator and, unless it is one, denominator. -/
structure RateRow where
  pool : Name
  token : Name
  numerator : Json
  denominator : Json
  deriving BEq, Repr

namespace RateRow

def ofList : List Json → Except Fault RateRow
  | [pool, token, numerator] => .ok ⟨pool, token, numerator, .int 1⟩
  | [pool, token, numerator, denominator] => .ok ⟨pool, token, numerator, denominator⟩
  | _ => .error (.breakdown .wrongType)

def set (r : RateRow) (v : ScriptedVenue Json) : Except Fault (ScriptedVenue Json) :=
  v.withRate r.pool r.token r.numerator r.denominator

def announce (r : RateRow) : Engine Json Unit :=
  ScriptedVenue.announceRate r.pool r.token r.numerator r.denominator

end RateRow

end TradingEngine
