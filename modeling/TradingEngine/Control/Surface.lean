import TradingEngine.Control.Request
import TradingEngine.Control.Target
import TradingEngine.Record.Request
import TradingEngine.Strategy.Arbitrage

/-! # The control surface

Four routes by which an operator looks at the engine and steers it: its health, the halt switch, a
search for arbitrage routes among given quotes, and a plan for a rebalancing. All but the first need
the operator's token. A search or a plan touches no venue. Beside them stand the pages that describe
the surface.

A request is judged in a fixed order: its route, the form of its body, its token, the record in its
body, and only then its matter. A request for a route with slashes behind it is sent on to the
route.
-/

namespace TradingEngine

/-- The pages that describe the control surface. -/
inductive ManualPage where
  | schema
  | explorer
  | explorerRedirect
  | reference
  deriving DecidableEq, Repr

/-- What the control surface offers. -/
inductive ControlRoute where
  | manual (page : ManualPage)
  | health
  | toggleHalt
  | scanRoutes
  | planRebalance
  deriving DecidableEq, Repr

namespace ControlRoute

def all : List ControlRoute :=
  [manual .schema, manual .explorer, manual .explorerRedirect, manual .reference, health,
    toggleHalt, scanRoutes, planRebalance]

def path : ControlRoute → String
  | manual .schema => "/openapi.json"
  | manual .explorer => "/docs"
  | manual .explorerRedirect => "/docs/oauth2-redirect"
  | manual .reference => "/redoc"
  | health => "/healthz"
  | toggleHalt => "/kill/toggle"
  | scanRoutes => "/routes/scan"
  | planRebalance => "/rebalance/plan"

def methods : ControlRoute → List String
  | manual _ => ["GET", "HEAD"]
  | health => ["GET"]
  | _ => ["POST"]

def readsBody : ControlRoute → Bool
  | scanRoutes | planRebalance => true
  | _ => false

/-- Whether a route needs the operator's token. -/
def isGuarded : ControlRoute → Bool
  | manual _ | health => false
  | _ => true

end ControlRoute

/-- Why a request is turned away before its matter is looked at. -/
inductive Denial where
  | notFound
  | methodNotAllowed
  | unreadableBody
  | tokenUnset
  | unauthorized
  deriving DecidableEq, Repr

namespace Denial

def status : Denial → Nat
  | notFound => 404
  | methodNotAllowed => 405
  | unreadableBody => 400
  | tokenUnset => 500
  | unauthorized => 401

def detail : Denial → String
  | notFound => "Not Found"
  | methodNotAllowed => "Method Not Allowed"
  | unreadableBody => "There was an error parsing the body"
  | tokenUnset => "Control token not configured"
  | unauthorized => "Unauthorized"

def response (d : Denial) : ControlResponse :=
  ⟨d.status, .value (.record [("detail", .text d.detail)]), none⟩

end Denial

namespace Control

variable {ν : Type} [Quantity ν]

/-- The path without the slashes at its end. -/
def canonicalPath (path : String) : String :=
  String.ofList (path.toList.reverse.dropWhile (· == '/')).reverse

/-- Whether a path leads to a route. A line break behind it does not matter. -/
def leadsTo (path : String) (route : ControlRoute) : Bool :=
  path == route.path || path == route.path ++ "\n"

/-- The route of a request. -/
def route (r : ControlRequest) : Except Denial ControlRoute :=
  match ControlRoute.all.filter (leadsTo r.path) with
  | [] => .error .notFound
  | found =>
    match found.find? (·.methods.contains r.method) with
    | some route => .ok route
    | none => .error .methodNotAllowed

/-- Whether a character may stand in a location. -/
def isLocationChar (c : Char) : Bool :=
  Target.isUnreserved c || ":/%#?=@[]!$&'()*+,;".toList.contains c

/-- Where a request is to be sent instead, if it is for a route with slashes behind it. The place is
    told with the host by which the request calls it. -/
def redirection? (r : ControlRequest) : Option String :=
  let path := canonicalPath r.path
  if path != r.path && ControlRoute.all.any (leadsTo path) then
    let site := match r.header? "host" with
      | some host => r.scheme ++ "://" ++ host
      | none => ""
    let query := if r.query.isEmpty then [] else '?' :: Target.queryText r.query
    some (String.ofList (Target.escape isLocationChar ((site ++ path).toList ++ query)))
  else none

/-- Why a request is turned away for its token, if it is. -/
def denial? {ν : Type} (s : Settings ν) (r : ControlRequest) : Except Fault (Option Denial) := do
  let token ← s.controlApiToken.held.mapError Fault.breakdown
  if !token.truthy then return some .tokenUnset
  let token ← token.inWords
  if (r.header? "authorization").map Text.ofString = some ("Bearer " ++ token) then return none
  return some .unauthorized

/-- The response with a value. -/
def answer (fields : Fields) : ControlResponse := ⟨200, .value (.record fields), none⟩

/-- The response to a body that cannot be used. -/
def unprocessable (ps : List Problem) : ControlResponse :=
  ⟨422, .problems (ps.map (Problem.below (.field "body"))), none⟩

/-- The record in a body. -/
def readBody {α : Type} (decode : Decoder α) : RequestBody → Decoded α
  | .absent => .problem .missing
  | .plain => .problem .modelAttributesType
  | .json v => decode v
  | .malformed position => .problems [⟨[.item position], .jsonInvalid⟩]
  | .unreadable => .problem .jsonInvalid

/-- The part of a body that is reported with a problem. A key is reported without its entry. -/
def reported (body : RequestBody) (p : Problem) : Json :=
  match body with
  | .json v => if p.place.getLast? == some (.field "[key]") then .null else v.part p.place
  | _ => .null

/-- Breaks down if these problems cannot be reported together with the parts of the body that have
    them. A text that does not hold characters alone never can. -/
def checkReport (body : RequestBody) (ps : List Problem) : Except Breakdown Unit := do
  Json.checkSent (.list (ps.map (reported body)))
  if ps.any (·.kind == .stringRagged) then .error .notEncodable

/-- Reports a failure of the engine to the operator. Every other fault is handed on. -/
def rejecting (op : Engine ν ControlResponse) : Engine ν ControlResponse := do
  match ← op.attempt with
  | .ok response => return response
  | .error (.failure f) =>
    Engine.log .warning "CONTROL_REQUEST_REJECTED"
      [("code", .text f.code), ("error", .text f.message)]
    return ⟨422, .value (.record [("detail", .record f.report)]), none⟩
  | .error other => Engine.fault other

/-- Tells whether the engine is halted. -/
def health : Engine ν ControlResponse := do
  return answer [("status", .text "ok"), ("kill_switch_active", .bool (← HaltSwitch.isActive))]

/-- Turns the halt switch over. -/
def toggleHalt (reason : String) : Engine ν ControlResponse := do
  if ← HaltSwitch.isActive then
    HaltSwitch.deactivate
  else
    HaltSwitch.activate (.text (if reason = "" then "manual override" else reason))
  return answer [("kill_switch_active", .bool (← HaltSwitch.isActive))]

/-- The profitable routes among the quotes of a request. One quote that cannot be used ends the
    search. -/
def routesOf (r : ScanRequest) : Engine ν (List ArbitrageRoute) := do
  let now ← Engine.orClock (r.now.map Quantity.ofInt)
  let s ← Engine.settings
  let limits ← Engine.ofExcept (PriceLimits.ofSettings s none none)
  let prices ← PriceQuote.validateAll limits none none now r.quotes
  let search ← Engine.ofExcept (RouteSearch.ofSettings s r.routeKinds none none)
  let least := Quantity.ofInt r.minProfitBps
  let found ← search.find (UsablePrice.prices prices) least r.pair now
  Engine.ofExcept (ArbitrageRoute.profitable least found)

/-- Searches the quotes of a request for routes. -/
def scanRoutes (r : ScanRequest) : Engine ν ControlResponse :=
  rejecting do
    let routes ← routesOf r
    Engine.log .info "CONTROL_ROUTES_SCANNED"
      [("pair", .text r.pair.symbol), ("routes", .int routes.length)]
    return answer [("routes", .list (routes.map ArbitrageRoute.toJson))]

def planRebalance (r : PlanRequest) : Engine ν ControlResponse :=
  rejecting do
    let current : List (Holder × ν) :=
      r.current.map fun (venue, amount) => ((venue, none), Quantity.ofInt amount)
    let moves ← Rebalance.compute current r.targets
    return answer [("moves", .list (moves.map LiquidityMove.toJson))]

/-- Answers with what is made of the record in a body, or with everything that is wrong with it. A
    problem that cannot be reported breaks down. -/
def withRecord {α : Type} (decode : Decoder α) (body : RequestBody)
    (answer : α → Engine ν ControlResponse) : Engine ν ControlResponse := do
  match readBody decode body with
  | .value record => answer record
  | .broken b => Engine.fault (.breakdown b)
  | .problems ps =>
    Engine.ofBreakdown (checkReport body ps)
    return unprocessable ps

/-- Answers a request whose token has been checked. -/
def serve (r : ControlRequest) : ControlRoute → Engine ν ControlResponse
  | .manual _ => return ⟨200, .value .null, none⟩
  | .health => health
  | .toggleHalt => toggleHalt ((r.field? "reason").getD "")
  | .scanRoutes => withRecord (ScanRequest.decode .request) r.content scanRoutes
  | .planRebalance => withRecord (PlanRequest.decode .request) r.content planRebalance

/-- Answers a request for a route. A body that should be JSON and is none is reported even to a
    caller without the token. -/
def answerRoute (r : ControlRequest) (route : ControlRoute) : Engine ν ControlResponse := do
  match route.readsBody, r.content with
  | true, .malformed position => return unprocessable [⟨[.item position], .jsonInvalid⟩]
  | true, .unreadable => return Denial.unreadableBody.response
  | _, _ =>
    if route.isGuarded then
      if let some denial ← Engine.ofExcept (denial? (← Engine.settings) r) then
        return denial.response
    serve r route

/-- The response as it is sent. One that cannot be written breaks down; of one to a request for
    nothing but the head, the body is left out. -/
def send (r : ControlRequest) (response : ControlResponse) : Engine ν ControlResponse := do
  if let .value v := response.content then Engine.ofBreakdown v.checkSent
  return if r.method = "HEAD" then { response with content := .value (.text "") } else response

def handle (r : ControlRequest) : Engine ν ControlResponse := do
  match redirection? r, route r with
  | some location, _ => return ⟨307, .value .null, some location⟩
  | none, .error denial => send r denial.response
  | none, .ok route => send r (← answerRoute r route)

end Control

end TradingEngine
