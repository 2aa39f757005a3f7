import Mathlib.Data.List.Nodup
import TradingEngine.Proofs.Control.Switch
import TradingEngine.Proofs.Steady
import TradingEngine.Proofs.Strategy.RouteLimits
import TradingEngine.Proofs.Table

/-! # Searching on request and searching by strategy

Routes are searched for in two ways. A request brings its quotes, which are validated one by one and
filed under their venues; a strategy reads one feed per venue from an oracle. Where the oracle knows
the quotes of the request, and the strategy reads the feed of each under its venue, both come down
to the same search.
-/

namespace TradingEngine

open Engine Quantity

/-! ### One search -/

namespace Engine

variable {ν α β : Type}

theorem mapM_congr {f g : α → Engine ν β} {xs : List α} (same : ∀ x ∈ xs, f x = g x) :
    xs.mapM f = xs.mapM g := by
  induction xs with
  | nil => rfl
  | cons x xs ih =>
      obtain ⟨first, others⟩ := List.forall_mem_cons.mp same
      rw [List.mapM_cons, List.mapM_cons, first, ih others]

/-- What is made of a result at the end. -/
theorem result_bind_pure (op : Engine ν α) (made : α → β) (w : World ν) :
    ((op >>= fun a => pure (made a)).result w).1 = (op.result w).1.map made := by
  rw [result_bind]
  cases op.result w with
  | mk r after => cases r <;> rfl

theorem length_of_filterMapM_ok {f : α → Engine ν (Option β)} {xs : List α} {ys : List β}
    {w after : World ν} (h : (xs.filterMapM f).result w = (.ok ys, after)) :
    ys.length ≤ xs.length := by
  induction xs generalizing w ys with
  | nil =>
      rw [List.filterMapM_nil] at h
      cases h
      exact Nat.le_refl 0
  | cons x xs ih =>
      rw [List.filterMapM_cons] at h
      obtain ⟨found, between, _, h⟩ := of_bind_ok h
      cases found with
      | none => exact Nat.le_succ_of_le (ih h)
      | some b =>
          obtain ⟨rest, _, others, h⟩ := of_bind_ok h
          cases h
          exact Nat.succ_le_succ (ih others)

end Engine

theorem Oracle.quote_of_mem {ν : Type} {o : Oracle ν} {q : PriceQuote}
    (feeds : (o.quotes.map (·.feed)).Nodup) (member : q ∈ o.quotes) :
    o.quote (.text q.feed) = .ok q := by
  have unique : (o.byFeed.map (·.1)).Nodup := by
    simpa [byFeed, Function.comp_def, List.nodup_reverse] using feeds
  have row : (q.feed, q) ∈ o.byFeed := List.mem_map_of_mem (List.mem_reverse.mpr member)
  simp only [quote, Table.named?_text, Table.get?_of_mem unique row]

namespace ScanRequest

/-- The feeds of the quotes of a request, each under the venue of its quote. -/
def feeds (r : ScanRequest) : List (VenueKind × Name) :=
  r.quotes.map fun q => (q.venue, .text q.feed)

/-- The validated quotes of a request, in their order. -/
def usable (s : Settings Int) (now : Int) (r : ScanRequest) :
    Engine Int (List (VenueKind × UsablePrice)) :=
  r.quotes.mapM fun q => do
    return (q.venue, ← q.validate ⟨s.maxRelativeConfidenceBps, s.minConfidence⟩ none none now)

/-- The search for the routes among these prices, with the limits of the settings. -/
def findRoutes (s : Settings Int) (now : Int) (r : ScanRequest)
    (prices : List (VenueKind × UsablePrice)) : Engine Int (List ArbitrageRoute) := do
  let search : RouteSearch Int := ⟨r.routeKinds, s.routeMaxSlippageBps, s.routeDeadlineSeconds⟩
  let found ← search.find (UsablePrice.prices prices) r.minProfitBps r.pair now
  Engine.ofExcept (ArbitrageRoute.profitable r.minProfitBps found)

/-- The search for the routes of a request. -/
def search (s : Settings Int) (now : Int) (r : ScanRequest) : Engine Int (List ArbitrageRoute) :=
  r.usable s now >>= r.findRoutes s now

/-- The run of a strategy for the pair and the feeds of a request that does not trade. -/
def dryRun (r : ScanRequest) (amount : Int) (ctx : Context Int) : Engine Int ArbitrageReport := do
  let s ← Arbitrageur.launch r.pair r.feeds amount r.minProfitBps r.routeKinds false none none
  s.run ctx

variable {r : ScanRequest} {s : Settings Int} {now : Int} {w : World Int}

theorem validateAll_eq_usable (venues : (r.quotes.map (·.venue)).Nodup) :
    PriceQuote.validateAll ⟨s.maxRelativeConfidenceBps, s.minConfidence⟩ none none now r.quotes =
      r.usable s now := by
  have filed := Table.foldlM_put PriceQuote.venue (PriceQuote.validate
    ⟨s.maxRelativeConfidenceBps, s.minConfidence⟩ none none now : _ → Engine Int UsablePrice)
    r.quotes [] (by simpa using venues)
  exact filed.trans (by simp [usable])

theorem search_steady (venues : (r.quotes.map (·.venue)).Nodup) : Steady (r.search s now) := by
  rw [search, ← validateAll_eq_usable venues]
  exact steady_bind (PriceQuote.validateAll_steady _ _ _ _ _) fun prices =>
    steady_bind (RouteSearch.find_steady _ _ _ _ _) fun _ => steady_ofExcept _

/-- The control surface searches for the routes of a request. -/
theorem result_routesOf (time : (orClock r.now).result w = (.ok now, w))
    (venues : (r.quotes.map (·.venue)).Nodup) :
    (Control.routesOf r).result w = (r.search w.settings now).result w := by
  have given : r.now.map Quantity.ofInt = r.now := by cases r.now <;> rfl
  have limits : PriceLimits.ofSettings w.settings none none =
      .ok ⟨w.settings.maxRelativeConfidenceBps, w.settings.minConfidence⟩ := rfl
  have limited : RouteSearch.ofSettings w.settings r.routeKinds none none =
      .ok ⟨r.routeKinds, w.settings.routeMaxSlippageBps, w.settings.routeDeadlineSeconds⟩ := rfl
  rw [search, ← validateAll_eq_usable venues, Control.routesOf, given, result_bind, time]
  dsimp only
  rw [result_bind, result_settings]
  dsimp only
  simp only [limits, limited, ofExcept_ok, pure_bind, ofInt_int]
  rfl

end ScanRequest

namespace Arbitrageur

variable {s : Arbitrageur Int} {ctx : Context Int} {w : World Int} {α : Type}

/-- What is journalled of an abandoned search does not matter for how it ends. -/
theorem prices_of_unusable {f : Fault} {after : World Int}
    (ended : (s.collect ctx).result w = (.error f, after))
    (bound : Json.fieldsWritable after.journal.bound = true) :
    ((s.prices ctx).result w).1 = .error f := by
  rw [prices, result_bind, result_attempt, ended]
  cases f with
  | refused record problems => rfl
  | breakdown b => rfl
  | failure e =>
      dsimp only
      split
      · have own : Json.fieldsWritable [("strategy_name", .text s.name), ("code", .text e.code),
            ("error", .text e.message)] = true := rfl
        obtain ⟨_, logged, _⟩ := log_ok .error "ARB_SEARCH_ABORTED" (by decide) bound own
        rw [result_bind, logged]
        rfl
      · rfl

theorem prices_bind_same (bound : Json.fieldsWritable w.journal.bound = true)
    (next : List (VenueKind × Int) → Engine Int α) :
    ((s.prices ctx >>= next).result w).1 =
      ((s.collect ctx >>= fun found => next (UsablePrice.prices found)).result w).1 := by
  have noted := s.collect_noted ctx w
  rw [result_bind (s.collect ctx)]
  cases ended : (s.collect ctx).result w with
  | mk r after =>
      rw [ended] at noted
      rw [result_bind]
      cases r with
      | ok found => rw [prices_of_collected ended]
      | error f =>
          have stopped := prices_of_unusable ended (noted.bound ▸ bound)
          cases priced : (s.prices ctx).result w with
          | mk r after =>
              rw [priced] at stopped
              cases stopped
              rfl

/-- A strategy whose feeds are those of the quotes in its oracle collects these quotes. -/
theorem collect_eq (known : s.feeds = ctx.oracle.quotes.map fun q => (q.venue, Json.text q.feed))
    (feeds : (ctx.oracle.quotes.map (·.feed)).Nodup) :
    s.collect ctx = ctx.oracle.quotes.mapM fun q => do
      return (q.venue, ← q.validate s.limits s.maxStaleness s.maxConfidence ctx.now) := by
  rw [collect, known, List.mapM_map]
  refine mapM_congr fun q member => ?_
  simp only [Function.comp_apply, Oracle.quote_of_mem feeds member, ofExcept_ok, pure_bind,
    ofInt_int]

theorem scan_same (running : w.halt = none) (bound : Json.fieldsWritable w.journal.bound = true) :
    ((s.scan ctx).result w).1 = ((s.collect ctx >>= fun found => do
      let routes ← s.search.find (UsablePrice.prices found) s.minProfitBps s.pair ctx.now
      Engine.ofExcept (ArbitrageRoute.profitable s.minProfitBps routes)).result w).1 := by
  rw [scan, HaltSwitch.result_check_bind, running]
  exact prices_bind_same bound _

/-- A run that trades nothing reports the routes that it finds. -/
theorem run_of_still (still : s.executes = false) (ctx : Context Int) :
    s.run ctx = (do return { routes := ← s.scan ctx }) := by
  simp only [run, scan, still, bind_assoc]

end Arbitrageur

namespace ScanRequest

variable {r : ScanRequest} {ctx : Context Int} {w : World Int}

/-- The strategy for a request as it is built under settings. -/
def strategy (s : Settings Int) (amount : Int) (r : ScanRequest) : Arbitrageur Int :=
  Arbitrageur.built s r.pair r.feeds amount r.minProfitBps r.routeKinds false none none

theorem strategy_feeds (venues : (r.quotes.map (·.venue)).Nodup) (s : Settings Int) (amount : Int) :
    (r.strategy s amount).feeds = r.feeds :=
  Table.foldl_put r.feeds (by simpa [feeds, Function.comp_def] using venues)

/-- A run of the strategy for a request comes down to the search for its routes. -/
theorem strategy_run_same (s : Settings Int) (amount : Int) (running : w.halt = none)
    (bound : Json.fieldsWritable w.journal.bound = true) (snapshot : ctx.oracle.quotes = r.quotes)
    (venues : (r.quotes.map (·.venue)).Nodup) (feeds : (r.quotes.map (·.feed)).Nodup) :
    (((r.strategy s amount).run ctx).result w).1 =
      ((r.search s ctx.now).result w).1.map fun routes => { routes } := by
  have collects : (r.strategy s amount).collect ctx = r.usable s ctx.now := by
    rw [Arbitrageur.collect_eq (by rw [strategy_feeds venues, snapshot]; rfl)
      (by rw [snapshot]; exact feeds), snapshot]
    rfl
  rw [Arbitrageur.run_of_still rfl, result_bind_pure, Arbitrageur.scan_same running bound, collects]
  rfl

/-- From worlds that differ in their journals only, the search for the routes of a request and a run
    of its strategy find the same routes or end in the same fault. -/
theorem dryRun_same {other : World Int} (alike : w.Journalled other) (running : w.halt = none)
    (bound : Json.fieldsWritable w.journal.bound = true)
    (least : Numeral.isWritable r.minProfitBps = true) (snapshot : ctx.oracle.quotes = r.quotes)
    (venues : (r.quotes.map (·.venue)).Nodup) (feeds : (r.quotes.map (·.feed)).Nodup)
    (amount : Int) :
    ((r.dryRun amount ctx).result other).1.map (·.routes) =
      ((r.search w.settings ctx.now).result w).1 := by
  obtain ⟨ready, launched, noted⟩ : ∃ ready,
      (Arbitrageur.launch r.pair r.feeds amount r.minProfitBps r.routeKinds false none none).result
        other = (.ok (r.strategy other.settings amount), ready) ∧ other.Noted ready :=
    Arbitrageur.launch_ok (alike.bound ▸ bound) least
  have away : w.Journalled ready := Frame.trans alike noted.journalled
  rw [dryRun, result_bind, launched]
  dsimp only
  rw [strategy_run_same other.settings amount (away.halt.trans running) (away.bound ▸ bound)
    snapshot venues feeds, alike.settings, ← (search_steady venues).same away]
  cases ((r.search w.settings ctx.now).result w).1 <;> rfl

theorem length_of_search_ok {s : Settings Int} {now : Int} {routes : List ArbitrageRoute}
    {after : World Int} (h : (r.search s now).result w = (.ok routes, after)) :
    routes.length ≤ r.routeKinds.length := by
  obtain ⟨prices, _, _, h⟩ := of_bind_ok h
  obtain ⟨found, _, searched, h⟩ := of_bind_ok h
  rw [result_ofExcept, ArbitrageRoute.profitable_eq] at h
  cases h
  exact Nat.le_trans (List.length_filter_le _ _) (length_of_filterMapM_ok searched)

/-- The response to a request that is rejected with these details. -/
def rejection (detail : Fields) : ControlResponse :=
  ⟨422, .value (.record [("detail", .record detail)]), none⟩

/-- What the operator is told of a search: its routes, or the failure that has ended it. Every other
    fault is handed on. -/
def told : Except Fault (List ArbitrageRoute) → Except Fault ControlResponse
  | .ok routes => .ok (Control.answer [("routes", .list (routes.map ArbitrageRoute.toJson))])
  | .error (.failure f) => .ok (rejection f.report)
  | .error other => .error other

theorem result_scanRoutes {now : Int} (time : (orClock r.now).result w = (.ok now, w))
    (bound : Json.fieldsWritable w.journal.bound = true)
    (countable : Numeral.isWritable r.routeKinds.length = true)
    (venues : (r.quotes.map (·.venue)).Nodup) :
    ((Control.scanRoutes r).result w).1 = told ((r.search w.settings now).result w).1 := by
  have within : w.Journalled ((r.search w.settings now).result w).2 :=
    (search_steady venues).within w
  rw [Control.scanRoutes, Control.rejecting, result_bind, result_attempt, result_bind,
    result_routesOf time venues]
  cases ended : (r.search w.settings now).result w with
  | mk found after =>
      rw [ended] at within
      have bound : Json.fieldsWritable after.journal.bound = true := within.bound ▸ bound
      cases found with
      | ok routes =>
          have counted : Numeral.isWritable routes.length = true :=
            Numeral.isWritable_of_natAbs_le (by simpa using length_of_search_ok ended) countable
          have own : Json.fieldsWritable
              [("pair", .text r.pair.symbol), ("routes", .int routes.length)] = true := by
            simp only [Json.fieldsWritable, Json.isWritable, counted, Bool.and_self]
          obtain ⟨_, logged, _⟩ := log_ok .info "CONTROL_ROUTES_SCANNED" (by decide) bound own
          dsimp only
          rw [result_bind, logged]
          rfl
      | error f =>
          cases f with
          | refused record problems => rfl
          | breakdown b => rfl
          | failure e =>
              have own : Json.fieldsWritable
                  [("code", .text e.code), ("error", .text e.message)] = true := rfl
              obtain ⟨_, logged, _⟩ :=
                log_ok .warning "CONTROL_REQUEST_REJECTED" (by decide) bound own
              dsimp only
              rw [result_bind, logged]
              rfl

end ScanRequest

theorem ControlRoute.of_readsBody {found : ControlRoute} (reads : found.readsBody = true) :
    found = .scanRoutes ∨ found = .planRebalance := by
  cases found with
  | scanRoutes => exact .inl rfl
  | planRebalance => exact .inr rfl
  | manual | health | toggleHalt => cases reads

namespace Control

/-- A response as it leaves, unless it cannot be sent. -/
def sent (response : ControlResponse) : Except Fault ControlResponse :=
  match response.content with
  | .value v => (v.checkSent.mapError Fault.breakdown).map fun _ => response
  | .problems _ => .ok response

variable {q : ControlRequest} {r : ScanRequest} {w : World Int}

theorem stays_of_path {found : ControlRoute} (reads : found.readsBody = true)
    (path : q.path = found.path) : redirection? q = none := by
  have canonical : canonicalPath q.path = q.path := by
    rw [path]
    rcases ControlRoute.of_readsBody reads with rfl | rfl <;> decide
  simp [redirection?, canonical]

theorem route_of_path {found : ControlRoute} (reads : found.readsBody = true)
    (method : q.method = "POST") (path : q.path = found.path) : route q = .ok found := by
  have candidates : ControlRoute.all.filter (leadsTo q.path) = [found] := by
    rw [path]
    rcases ControlRoute.of_readsBody reads with rfl | rfl <;> decide
  have answers : found.methods = ["POST"] := by
    rcases ControlRoute.of_readsBody reads with rfl | rfl <;> rfl
  simp [route, candidates, method, answers]

/-- A route that reads a record looks at the form of the body before it looks at the token. -/
theorem result_answerRoute {found : ControlRoute} (reads : found.readsBody = true)
    (q : ControlRequest) (w : World Int) :
    (answerRoute q found).result w = match q.content with
      | .malformed position => (.ok (unprocessable [⟨[.item position], .jsonInvalid⟩]), w)
      | .unreadable => (.ok Denial.unreadableBody.response, w)
      | _ => match denial? w.settings q with
        | .error f => (.error f, w)
        | .ok (some denial) => (.ok denial.response, w)
        | .ok none => (serve q found).result w := by
  have isGuarded : found.isGuarded = true := by
    rcases ControlRoute.of_readsBody reads with rfl | rfl <;> rfl
  have guarded := result_guarded q found w
  rw [answerRoute, reads, isGuarded]
  cases q.content with
  | malformed position => rfl
  | unreadable => rfl
  | absent | plain | json v => exact guarded

/-- A request for a route that reads a record, with the record in its body and the operator's token,
    comes down to what is made of the record. -/
theorem result_handle_read {α : Type} {decode : Decoder α} {record : α} {found : ControlRoute}
    {answer : α → Engine Int ControlResponse} (reads : found.readsBody = true)
    (serves : serve q found = withRecord decode q.content answer) (method : q.method = "POST")
    (path : q.path = found.path) (token : q.carriesToken w.settings = true)
    (body : readBody decode q.content = .value record) :
    ((handle q).result w).1 = ((answer record).result w).1 >>= sent := by
  have stays := stays_of_path reads path
  have routed := route_of_path reads method path
  have served : (answerRoute q found).result w = (answer record).result w := by
    have denied : denial? w.settings q = .ok none := (denial?_eq_none_iff _ _).mpr token
    have recorded : (serve q found : Engine Int _) = answer record := by
      rw [serves, withRecord, body]
    rw [result_answerRoute reads, denied, recorded]
    cases content : q.content with
    | malformed position =>
        rw [content] at body
        cases body
    | unreadable =>
        rw [content] at body
        cases body
    | absent | plain | json v => rfl
  simp only [handle, stays, routed]
  rw [result_bind, served]
  cases (answer record).result w with
  | mk ended after =>
      cases ended with
      | error f => rfl
      | ok response =>
          dsimp only
          rw [Except.ok_bind, send, sent, method]
          cases response.content with
          | problems ps => rfl
          | value v =>
              dsimp only
              cases v.checkSent <;> rfl

/-- A request to search, from the operator. -/
structure Asks (s : Settings Int) (r : ScanRequest) (q : ControlRequest) : Prop where
  method : q.method = "POST"
  path : q.path = "/routes/scan"
  token : q.carriesToken s = true
  body : readBody (ScanRequest.decode .request) q.content = .value r

theorem result_handle_scan (asked : Asks w.settings r q) :
    ((handle q).result w).1 = ((scanRoutes r).result w).1 >>= sent := by
  have reads : ControlRoute.scanRoutes.readsBody = true := rfl
  exact result_handle_read reads rfl asked.method asked.path asked.token asked.body

end Control

end TradingEngine
