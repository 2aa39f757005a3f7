import TradingEngine.Proofs.Strategy.RouteBooks

/-! # Open positions

Where the entry leg of a route has filled and its exit leg fails, the caller is left with what was
bought. A run reports this if a guard has stopped the exit leg. Any other fault of the exit leg ends
the run, with the fill among what a failure tells, and without it where the fault is none.
-/

namespace TradingEngine

open Engine Quantity

namespace ArbitrageRoute

/-- What stands in front of the legs of a route: the slippage that they may take, unless the risk
    gate refuses the trade. -/
def prepare (route : ArbitrageRoute) (amountIn : Int) (ctx : Context Int) :
    Engine Int (Option Int) := do
  let slippage ← route.preflight ctx.now
  if !(← ctx.risk.allow ctx.metrics amountIn) then return none
  Registry.require route.entryVenue
  Registry.require route.exitVenue
  return some slippage

theorem execute_eq (route : ArbitrageRoute) (amountIn : Int) (ctx : Context Int) :
    route.execute amountIn ctx = (do
      match ← route.prepare amountIn ctx with
      | some slippage => route.trade amountIn slippage ctx.now
      | none => return none) := by
  simp only [execute, prepare, trade, bind_assoc]
  congr 1
  funext slippage
  congr 1
  funext granted
  cases granted with
  | false => rfl
  | true => simp [bind_assoc]

theorem prepare_noted (route : ArbitrageRoute) (amountIn : Int) (ctx : Context Int) :
    Within World.Noted (route.prepare amountIn ctx) := by
  refine within_bind (route.preflight_tradeless ctx.now).noted fun slippage =>
    within_bind (ctx.risk.allow_noted ctx.metrics amountIn) fun granted => ?_
  cases granted with
  | false => exact within_pure none
  | true =>
      exact within_bind (Registry.require_noted _) fun _ =>
        within_bind (Registry.require_noted _) fun _ => within_pure _

theorem execute_of_unsold {route : ArbitrageRoute} {amountIn slippage : Int} {ctx : Context Int}
    {bought : Fill} {f : Fault} {w ready entered after : World Int}
    (prepares : (route.prepare amountIn ctx).result w = (.ok (some slippage), ready))
    (filled : (leg route.entryVenue route.pair.symbol route.pair.quote amountIn
      slippage).result ready = (.ok bought, entered))
    (unsold : (route.sell bought amountIn slippage).result entered = (.error f, after)) :
    (route.execute amountIn ctx).result w = (.error f, after) := by
  rw [execute_eq, result_bind, prepares]
  dsimp only
  simp only [trade]
  rw [result_bind, filled]
  dsimp only
  rw [result_bind, unsold]

end ArbitrageRoute

namespace Arbitrageur

variable {s : Arbitrageur Int} {ctx : Context Int} {w : World Int}

/-- The routes that a run chooses from. -/
def scan (s : Arbitrageur Int) (ctx : Context Int) : Engine Int (List ArbitrageRoute) := do
  HaltSwitch.check
  let prices ← s.prices ctx
  let found ← s.search.find prices s.minProfitBps s.pair (ofInt ctx.now)
  Engine.ofExcept (ArbitrageRoute.profitable s.minProfitBps found)

theorem run_eq (s : Arbitrageur Int) (ctx : Context Int) :
    s.run ctx = (do
      let routes ← s.scan ctx
      match s.executes, ArbitrageRoute.best? routes with
      | true, some best => s.attempt routes best ctx
      | _, _ => return { routes }) := by
  conv_rhs => simp only [scan, bind_assoc]
  rfl

theorem run_of_scan {routes : List ArbitrageRoute} {best : ArbitrageRoute} {after : World Int}
    (executes : s.executes = true) (scanned : (s.scan ctx).result w = (.ok routes, after))
    (chosen : ArbitrageRoute.best? routes = some best) :
    (s.run ctx).result w = (s.attempt routes best ctx).result after := by
  rw [run_eq, result_bind, scanned]
  dsimp only
  rw [executes, chosen]

theorem collect_noted (s : Arbitrageur Int) (ctx : Context Int) :
    Within World.Noted (s.collect ctx) :=
  within_mapM (fun _ => within_bind (within_ofExcept _) fun quote =>
    within_bind (quote.validate_noted _ _ _ _) fun _ => within_pure _) s.feeds

theorem prices_noted (s : Arbitrageur Int) (ctx : Context Int) :
    Within World.Noted (s.prices ctx) := by
  refine within_bind (within_attempt (s.collect_noted ctx)) fun collected => ?_
  cases collected with
  | ok found => exact within_pure _
  | error f =>
      cases f with
      | refused record problems => exact within_fault _
      | breakdown b => exact within_fault _
      | failure e =>
          dsimp only
          split
          · exact within_bind (log_noted _ _ _ (by decide)) fun _ => within_fault _
          · exact within_fault _

theorem prices_of_collected {found : List (VenueKind × UsablePrice)} {after : World Int}
    (ended : (s.collect ctx).result w = (.ok found, after)) :
    (s.prices ctx).result w = (.ok (UsablePrice.prices found), after) := by
  rw [prices, result_bind, result_attempt, ended]
  rfl

theorem scan_noted (s : Arbitrageur Int) (ctx : Context Int) : Within World.Noted (s.scan ctx) :=
  within_bind HaltSwitch.check_noted fun _ => within_bind (s.prices_noted ctx) fun prices =>
    within_bind (s.search.find_noted prices s.minProfitBps s.pair _) fun _ => within_ofExcept _

/-- What a run comes to whose route has ended in a fault: a guard is reported, with the fill that
    its failure carries, and everything else is handed on. -/
def afterFault (routes : List ArbitrageRoute) : Fault → Except Fault ArbitrageReport
  | .failure e =>
    if e.kind.isA .economicGuard then
      .ok { routes, error := some e, openFill := e.entryFill }
    else .error (.failure e)
  | f => .error f

/-- How an attempt at a route ends, by how the execution of the route ends. A trade is reported, or
    that there was none, and so is a guard that has stopped the route; everything else is handed on.
    Nothing is added to what the execution leaves but the note of a stopped route. -/
inductive AttemptEnd (routes : List ArbitrageRoute) :
    Except Fault (Option ExecutedTrade) × World Int →
      Except Fault ArbitrageReport × World Int → Prop
  | done (executed : Option ExecutedTrade) (left : World Int) :
      AttemptEnd routes (.ok executed, left) (.ok { routes, executed }, left)
  | stopped {e : Failure} {left after : World Int} (guarded : e.kind.isA .economicGuard = true)
      (noted : left.Noted after) :
      AttemptEnd routes (.error (.failure e), left)
        (.ok { routes, error := some e, openFill := e.entryFill }, after)
  | unnoted {e : Failure} {left : World Int} (guarded : e.kind.isA .economicGuard = true)
      (untold : Json.fieldsWritable left.journal.bound ≠ true) :
      AttemptEnd routes (.error (.failure e), left) (.error (.breakdown .tooManyDigits), left)
  | handedOn {f : Fault} {left : World Int}
      (other : ∀ e, f = .failure e → e.kind.isA .economicGuard ≠ true) :
      AttemptEnd routes (.error f, left) (.error f, left)

variable (s ctx w) in
/-- An attempt at a route executes the route. -/
theorem attempt_ends (routes : List ArbitrageRoute) (route : ArbitrageRoute) :
    AttemptEnd routes ((route.execute s.tradeAmount ctx).result w)
      ((s.attempt routes route ctx).result w) := by
  simp only [attempt]
  rw [result_bind, result_attempt]
  obtain ⟨ended, left⟩ := (route.execute s.tradeAmount ctx).result w
  cases ended with
  | ok executed => exact .done executed left
  | error f =>
      cases f with
      | refused record problems => exact .handedOn nofun
      | breakdown b => exact .handedOn nofun
      | failure e =>
          dsimp only
          split
          · rename_i guarded
            have noted := log_noted .error "ARB_ROUTE_FAILED"
              [("route_kind", .text route.routeKind.name), ("code", .text e.code),
                ("error", .text e.message)] (by decide) left
            rw [result_log] at noted
            rw [result_bind, result_log]
            cases written : left.journal.write .error "ARB_ROUTE_FAILED"
              [("route_kind", .text route.routeKind.name), ("code", .text e.code),
                ("error", .text e.message)] with
            | ok journal =>
                rw [written] at noted
                exact .stopped guarded noted
            | error b =>
                rw [Journal.of_write_error written]
                exact .unnoted guarded fun bound =>
                  Journal.unwritable_of_write_error written ⟨bound, rfl⟩
          · rename_i other
            refine .handedOn fun _ same => ?_
            cases same
            exact other

theorem attempt_of_fault {routes : List ArbitrageRoute} {route : ArbitrageRoute} {f : Fault}
    {left : World Int} (failed : (route.execute s.tradeAmount ctx).result w = (.error f, left))
    (bound : Json.fieldsWritable left.journal.bound = true) :
    ((s.attempt routes route ctx).result w).1 = afterFault routes f := by
  have ends := s.attempt_ends ctx w routes route
  rw [failed] at ends
  generalize (s.attempt routes route ctx).result w = ended at ends
  cases ends with
  | stopped guarded noted => rw [afterFault, if_pos guarded]
  | unnoted guarded untold => exact absurd bound untold
  | handedOn other =>
      cases f with
      | refused record problems => rfl
      | breakdown b => rfl
      | failure e => rw [afterFault, if_neg (other e rfl)]

/-- A run that executes attempts the best route that it has found. -/
theorem run_ends {routes : List ArbitrageRoute} {best : ArbitrageRoute} {after : World Int}
    (executes : s.executes = true) (scanned : (s.scan ctx).result w = (.ok routes, after))
    (chosen : ArbitrageRoute.best? routes = some best) :
    AttemptEnd routes ((best.execute s.tradeAmount ctx).result after) ((s.run ctx).result w) := by
  rw [run_of_scan executes scanned chosen]
  exact s.attempt_ends ctx after routes best

/-- A run of which the best route has filled on its entry venue and failed on its exit venue. -/
inductive LeavesOpen (s : Arbitrageur Int) (ctx : Context Int) (w : World Int)
    (routes : List ArbitrageRoute) (bought : Fill) (f : Fault) : Prop
  | intro {best : ArbitrageRoute} {slippage : Int} {searched ready entered left : World Int}
      (executes : s.executes = true)
      (found : (s.scan ctx).result w = (.ok routes, searched))
      (chosen : ArbitrageRoute.best? routes = some best)
      (prepares : (best.prepare s.tradeAmount ctx).result searched = (.ok (some slippage), ready))
      (filled : (ArbitrageRoute.leg best.entryVenue best.pair.symbol best.pair.quote s.tradeAmount
        slippage).result ready = (.ok bought, entered))
      (failed : (ArbitrageRoute.leg best.exitVenue best.pair.symbol best.pair.base bought.amountOut
        slippage).result entered = (.error f, left))

variable {routes : List ArbitrageRoute} {bought : Fill} {f : Fault}

theorem run_of_leavesOpen (opened : s.LeavesOpen ctx w routes bought f)
    (bound : Json.fieldsWritable w.journal.bound = true)
    (writable : Numeral.isWritable bought.amountOut = true ∧
      Numeral.isWritable s.tradeAmount = true) :
    ((s.run ctx).result w).1 = afterFault routes (f.withFill bought) := by
  obtain @⟨best, slippage, searched, ready, entered, left, executes, found, chosen, prepares,
    filled, failed⟩ := opened
  have bound : Json.fieldsWritable left.journal.bound = true := by
    have searching := s.scan_noted ctx w
    have preparing := best.prepare_noted s.tradeAmount ctx searched
    have entering := ArbitrageRoute.leg_traded best.entryVenue best.pair.symbol best.pair.quote
      s.tradeAmount slippage ready
    have leaving := ArbitrageRoute.leg_traded best.exitVenue best.pair.symbol best.pair.base
      bought.amountOut slippage entered
    rw [found] at searching
    rw [prepares] at preparing
    rw [filled] at entering
    rw [failed] at leaving
    rwa [leaving.bound, entering.bound, preparing.bound, searching.bound]
  obtain ⟨after, sold, noted⟩ := best.sell_of_failed bought s.tradeAmount failed bound writable
  rw [run_of_scan executes found chosen]
  exact attempt_of_fault (ArbitrageRoute.execute_of_unsold prepares filled sold)
    (noted.bound ▸ bound)

/-- A run that is left with an open position reports it exactly if an economic guard has stopped the
    exit leg. Then the report has no trade, the failure of the exit leg and the entry fill; of any
    other fault there is no report at all. -/
theorem open_position_reported_iff (opened : s.LeavesOpen ctx w routes bought f)
    (bound : Json.fieldsWritable w.journal.bound = true)
    (writable : Numeral.isWritable bought.amountOut = true ∧
      Numeral.isWritable s.tradeAmount = true) :
    ((∃ report, ((s.run ctx).result w).1 = .ok report) ↔
      ∃ e, f = .failure e ∧ e.kind.isA .economicGuard = true) ∧
    ∀ report, ((s.run ctx).result w).1 = .ok report →
      report.executed = none ∧ report.openFill = some bought ∧
        ∃ e, f = .failure e ∧ report.error = some { e with entryFill := some bought } := by
  rw [run_of_leavesOpen opened bound writable]
  cases f with
  | refused record problems => simp [Fault.withFill, afterFault]
  | breakdown b => simp [Fault.withFill, afterFault]
  | failure e =>
      have kind : Failure.kind { e with entryFill := some bought } = e.kind := rfl
      simp only [Fault.withFill, afterFault, kind]
      cases guard : e.kind.isA .economicGuard <;> simp [guard]

/-- A strategy that trades 10000 between the two venues of a pair. -/
def pairStrategy : Arbitrageur Int :=
  { pair := ⟨"SOL", "USDC"⟩, feeds := [(.raydium, .text "r"), (.jupiter, .text "j")]
    tradeAmount := 10000, minProfitBps := 50
    search := ⟨RouteKind.defaultCycle, 100, 60⟩, limits := ⟨100, 100⟩ }

/-- Prices at which it pays to buy on the first venue and to sell on the second. -/
def pricedContext : Context Int :=
  { ArbitrageRoute.pairContext with
    oracle := { now := 0, quotes := [⟨.raydium, "r", 100000000, 1000, 0⟩,
      ⟨.jupiter, "j", 102000000, 1000, 0⟩] } }

/-- A pool to buy from, and this venue to sell on. -/
def exitWorld (exit : Venue Int) : World Int :=
  { ArbitrageRoute.pairWorld 0 with
    venues := [(.raydium, ArbitrageRoute.pairVenue .raydium 1000000 1000000), (.jupiter, exit)] }

/-- A run that ends on this venue. -/
def pairRun (exit : Venue Int) : Except Fault ArbitrageReport × World Int :=
  (pairStrategy.run pricedContext).result (exitWorld exit)

/-- A venue that quotes one for one and pays 5 % less. -/
def shortVenue : Venue Int :=
  .scripted { kind := .jupiter, rates := [("SOL/USDC:SOL", 1, 1)], haircutBps := 500 }

/-- The exit leg that ends in this fault is worth 9377, and should be worth 9772. -/
theorem shortVenue_leavesOpen :
    pairStrategy.LeavesOpen pricedContext (exitWorld shortVenue)
      [{ ArbitrageRoute.pairRoute with
        expectedProfitBps := 200, minProfitBps := 50, maxSlippageBps := 100 }]
      ⟨10000, 9871⟩ (Cause.belowMinimumOut (.int 9377) (.int 9772)).fault :=
  .intro rfl rfl rfl rfl rfl rfl

theorem shortVenue_reported : ∃ report, (pairRun shortVenue).1 = .ok report ∧
    report.executed = none ∧ report.openFill = some ⟨10000, 9871⟩ := by
  have writable {n : Int} (low : 0 ≤ n) (high : n ≤ u64Max) : Numeral.isWritable n = true :=
    Numeral.isWritable_of_u64 low high
  have shown : Json.allWritable (Cause.belowMinimumOut (.int 9377) (.int 9772)).shownValues =
      true := by
    have paid : Numeral.isWritable 9377 = true := writable (by decide) (by decide)
    have least : Numeral.isWritable 9772 = true := writable (by decide) (by decide)
    simp only [Cause.shownValues, Json.allWritable, Json.isWritable, paid, least, Bool.and_self]
  obtain ⟨reported, correct⟩ := open_position_reported_iff shortVenue_leavesOpen rfl
    ⟨writable (by decide) (by decide), writable (by decide) (by decide)⟩
  obtain ⟨report, ended⟩ := reported.mpr ⟨_, Cause.fault_eq shown, rfl⟩
  obtain ⟨untraded, filled, _⟩ := correct report ended
  exact ⟨report, ended, untraded, filled⟩

/-- A venue that does not know the pool, or that breaks down: what was bought is not reported, and
    the breakdown does not even tell of it. -/
theorem open_position_escapes :
    (pairRun (.paper { kind := .jupiter })).1 =
      .error (.failure ⟨.unknownPool (.text "SOL/USDC") .jupiter, some ⟨10000, 9871⟩⟩) ∧
    ((pairRun (.paper { kind := .jupiter })).2.pool? .raydium (.text "SOL/USDC")).map
      (fun p => (p.reserveA, p.reserveB)) = some (1000000 - 9871, 1000000 + 10000) ∧
    (pairRun (.scripted { kind := .jupiter, haircutBps := 0, failsNext := true
                          rates := [("SOL/USDC:SOL", 1, 1)] })).1 =
      .error (.breakdown .forced) :=
  ⟨rfl, rfl, rfl⟩

end Arbitrageur

end TradingEngine
