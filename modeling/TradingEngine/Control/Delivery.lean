import TradingEngine.Control.Address
import TradingEngine.Control.Surface

/-! # Delivery of requests

How whoever sends a request brings it to the control surface. An address may tell credentials, which
take the place of other authorization, and a response may send the request on to another address. A
request that is sent on to another origin calls it by its own host and leaves its authorization
behind.
-/

namespace TradingEngine

variable {ν : Type} [Quantity ν]

namespace ControlRequest

/-- The request with the target of an address. -/
def aimedAt (a : Address) (r : ControlRequest) : ControlRequest :=
  let (path, query) := Target.parse a.requestTarget
  { r with path, query, scheme := a.scheme }

/-- The request as it is first sent to an address: it calls the host by its name unless it has
    another for it, and credentials are its authorization. -/
def addressed (a : Address) (r : ControlRequest) : ControlRequest :=
  let named := if (r.header? "host").isSome then r else r.withHeader "host" a.site
  if a.hasCredentials then named.withHeader "authorization" "Basic" else named

/-- The request as it is sent on from one address to another. -/
def sentOn (first next : Address) (r : ControlRequest) : ControlRequest :=
  if next.sameOrigin first then r.aimedAt next
  else ((r.without "authorization").withHeader "host" next.site).aimedAt next

end ControlRequest

namespace Delivery

/-- How often a request is sent before it is given up. -/
def limit : Nat := 21

/-- The address to which a response at another one sends a request on. -/
def follow (here : Address) (location : String) : Except Breakdown Address :=
  match Address.ofText location with
  | .ok a => .ok (if a.host = "" then { a with host := here.host } else a)
  | .error _ => .error .badRedirection

/-- Sends a request to an address, at most so many times. -/
def send : Nat → Address → ControlRequest → Engine ν ControlResponse
  | 0, _, _ => Engine.fault (.breakdown .tooManyRedirections)
  | times + 1, a, r => do
    Engine.ofBreakdown a.checkSent
    let response ← Control.handle r
    match response.location with
    | none => return response
    | some location =>
      let next ← Engine.ofBreakdown (follow a location)
      send times next (r.sentOn a next)

/-- Delivers a request to an address. -/
def deliver (a : Address) (r : ControlRequest) : Engine ν ControlResponse :=
  send limit a (r.addressed a)

end Delivery

end TradingEngine
