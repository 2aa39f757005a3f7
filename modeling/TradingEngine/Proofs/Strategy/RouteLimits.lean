import TradingEngine.Proofs.Strategy.OpenPosition
import TradingEngine.Proofs.Venue.Repeat
import TradingEngine.Startup

/-! # Routes under checked settings

A search makes its routes within limits that it takes from the settings, and whoever executes a
route holds it to limits that are settings as well. The two agree for settings that pass the check
at startup: a route is made within the limits that it is held to, and stays within them until its
deadline.
-/

namespace TradingEngine

open Engine Quantity

/-! ### Settings that pass the check -/

namespace Settings

/-- Thresholds that are shares or positive where they have to be, and agree with one another. -/
structure Consistent (s : Settings Int) : Prop where
  relativeConfidence : 0 ≤ s.maxRelativeConfidenceBps ∧ s.maxRelativeConfidenceBps ≤ 10000
  routeSlippage : 0 ≤ s.routeMaxSlippageBps ∧ s.routeMaxSlippageBps ≤ 10000
  slippage : 0 ≤ s.maxSlippageBps ∧ s.maxSlippageBps ≤ 10000
  staleness : 0 < s.maxStalenessSeconds
  routeDeadline : 0 < s.routeDeadlineSeconds
  deadline : 0 < s.maxDeadlineSeconds
  tickSpacing : 0 < s.tickSpacing
  loopIterations : 0 < s.maxLoopIterations
  confidenceOrder : s.minConfidence ≤ s.maxConfidence
  slippageOrder : s.routeMaxSlippageBps ≤ s.maxSlippageBps
  deadlineOrder : s.routeDeadlineSeconds ≤ s.maxDeadlineSeconds

variable {s : Settings Int} {value bound : Int} {name other : String}

theorem shareProblem_eq_nil_iff (named : s.number name = .ok value) :
    s.shareProblem name = .ok [] ↔ 0 ≤ value ∧ value ≤ 10000 := by
  simp only [shareProblem, named, ofInt_int, le_int, Except.ok_bind, decide_eq_true_eq]
  by_cases low : 0 ≤ value
  · by_cases high : value ≤ 10000
    · simp [low, high]
      rfl
    · rw [if_pos low, if_neg high]
      cases ((Quantity.toJson value).inWords : Except Fault Text) <;> simp [high]
  · rw [if_neg low]
    cases ((Quantity.toJson value).inWords : Except Fault Text) <;> simp [low]

theorem signProblem_eq_nil_iff (named : s.number name = .ok value) :
    s.signProblem name = .ok [] ↔ 0 < value := by
  simp only [signProblem, named, ofInt_int, le_int, Except.ok_bind, decide_eq_true_eq]
  by_cases low : value ≤ 0
  · rw [if_pos low]
    exact ⟨nofun, fun positive => absurd low (by omega)⟩
  · rw [if_neg low]
    exact ⟨fun _ => by omega, fun _ => rfl⟩

theorem orderProblem_eq_nil_iff (named : s.number name = .ok value)
    (bounded : s.number other = .ok bound) :
    s.orderProblem name other = .ok [] ↔ value ≤ bound := by
  simp only [orderProblem, named, bounded, lt_int, Except.ok_bind, decide_eq_true_eq]
  by_cases above : bound < value
  · rw [if_pos above]
    exact ⟨nofun, fun within => absurd above (by omega)⟩
  · rw [if_neg above]
    exact ⟨fun _ => by omega, fun _ => rfl⟩

/-- Settings without a violation are consistent. -/
theorem consistent_of_unfit (h : s.unfit = .ok []) : s.Consistent := by
  obtain ⟨outside, judged, h⟩ := Except.of_bind_ok h
  obtain ⟨negative, signed, h⟩ := Except.of_bind_ok h
  obtain ⟨confidence, confidenceOrder, h⟩ := Except.of_bind_ok h
  obtain ⟨slippage, slippageOrder, h⟩ := Except.of_bind_ok h
  obtain ⟨deadline, deadlineOrder, h⟩ := Except.of_bind_ok h
  simp only [pure, Except.pure, Except.ok.injEq, List.append_eq_nil_iff, List.flatten_append,
    List.flatten_eq_nil_iff] at h
  obtain ⟨⟨⟨⟨noneOutside, noneNegative⟩, rfl⟩, rfl⟩, rfl⟩ := h
  have share (name : String) {value : Int} (named : s.number name = .ok value)
      (listed : name ∈ shares) : 0 ≤ value ∧ value ≤ 10000 := by
    obtain ⟨problems, among, found⟩ := Except.of_mapM_ok judged name listed
    exact (shareProblem_eq_nil_iff named).mp (found.trans (by rw [noneOutside problems among]))
  have sign (name : String) {value : Int} (named : s.number name = .ok value)
      (listed : name ∈ positives) : 0 < value := by
    obtain ⟨problems, among, found⟩ := Except.of_mapM_ok signed name listed
    exact (signProblem_eq_nil_iff named).mp (found.trans (by rw [noneNegative problems among]))
  exact
    { relativeConfidence := share "MAX_RELATIVE_CONFIDENCE_BPS" rfl (by decide)
      routeSlippage := share "ROUTE_MAX_SLIPPAGE_BPS" rfl (by decide)
      slippage := share "MAX_SLIPPAGE_BPS" rfl (by decide)
      staleness := sign "MAX_STALENESS_SECONDS" rfl (by decide)
      routeDeadline := sign "ROUTE_DEADLINE_SECONDS" rfl (by decide)
      deadline := sign "MAX_DEADLINE_SECONDS" rfl (by decide)
      tickSpacing := sign "TICK_SPACING" rfl (by decide)
      loopIterations := sign "MAX_LOOP_ITERATIONS" rfl (by decide)
      confidenceOrder := (orderProblem_eq_nil_iff rfl rfl).mp confidenceOrder
      slippageOrder := (orderProblem_eq_nil_iff rfl rfl).mp slippageOrder
      deadlineOrder := (orderProblem_eq_nil_iff rfl rfl).mp deadlineOrder }

end Settings

theorem Startup.consistent_of_checkSettings {w : World Int}
    (accepted : (checkSettings.result w).1 = .ok ()) : w.settings.Consistent := by
  cases ended : (checkSettings : Engine Int Unit).result w with
  | mk r after =>
      rw [ended] at accepted
      cases accepted
      obtain ⟨_, noted, logged, ended⟩ := of_bind_ok ended
      obtain ⟨_, _, read, ended⟩ := of_bind_ok ended
      cases read
      obtain ⟨violations, _, judged, ended⟩ := of_bind_ok ended
      rw [result_ofExcept] at judged
      obtain ⟨unfit, rfl⟩ := Prod.mk.inj judged
      have same : noted.settings = w.settings := by
        have kept := log_noted .info "--- CONFIG VALIDATION START ---" [] (by decide) w
        rw [logged] at kept
        exact kept.settings
      cases violations with
      | nil => exact same ▸ Settings.consistent_of_unfit unfit
      | cons text rest =>
          obtain ⟨_, _, _, ended⟩ := of_bind_ok ended
          cases ended

/-! ### What the guards ask of a route -/

theorem Guard.deadline_ok {s : Settings Int} {deadline now : Int} (ahead : now ≤ deadline)
    (near : deadline ≤ now + s.maxDeadlineSeconds) :
    Guard.deadline s deadline now = .ok deadline := by
  simp only [Guard.deadline, lt_int, held_int, add_int, Except.ok_bind, decide_eq_true_eq]
  rw [if_neg (Int.not_lt.mpr ahead), if_neg (Int.not_lt.mpr near)]
  rfl

namespace ArbitrageRoute

/-- A route that was made at a time within the limits of the settings. -/
structure Permitted (s : Settings Int) (now : Int) (route : ArbitrageRoute) : Prop where
  profit : route.minProfitBps ≤ route.expectedProfitBps
  share : 0 ≤ route.maxSlippageBps ∧ route.maxSlippageBps ≤ bpsWhole
  slippage : route.maxSlippageBps ≤ s.maxSlippageBps
  deadline : route.deadline = now + s.routeDeadlineSeconds
  ahead : now ≤ route.deadline
  near : route.deadline ≤ now + s.maxDeadlineSeconds

namespace Permitted

variable {s : Settings Int} {now later : Int} {route : ArbitrageRoute} {w : World Int}

theorem slippage_ok (h : route.Permitted s now) :
    Guard.slippage s route.maxSlippageBps = .ok route.maxSlippageBps :=
  Guard.slippage_eq_ok_iff.mpr ⟨rfl, h.share, h.slippage⟩

theorem deadline_ok (h : route.Permitted s now) :
    Guard.deadline s route.deadline now = .ok route.deadline :=
  Guard.deadline_ok h.ahead h.near

/-- Until its deadline, only a halt stops a route. -/
theorem preflight_eq (h : route.Permitted s now) (same : w.settings = s)
    (inTime : later ≤ now + s.routeDeadlineSeconds) :
    (route.preflight later).result w =
      (do HaltSwitch.check; return route.maxSlippageBps : Engine Int Int).result w := by
  rw [preflight, HaltSwitch.result_check_bind, HaltSwitch.result_check_bind]
  have expires := h.deadline
  cases w.halt with
  | some reason => rfl
  | none =>
      simp only [Option.isSome_none, Bool.false_eq_true, if_false]
      rw [if_neg (by omega), if_neg (Int.not_lt.mpr h.profit)]
      simp only [result_bind, result_settings, same, ofInt_int, result_ofExcept,
        h.slippage_ok, result_pure]

end Permitted

end ArbitrageRoute

/-! ### What a search makes -/

namespace Engine

variable {ν α β : Type}

/-- What a list is filtered and mapped to was given for one of its elements. -/
theorem of_filterMapM_ok {f : α → Engine ν (Option β)} {xs : List α} {ys : List β}
    {w after : World ν} (h : (xs.filterMapM f).result w = (.ok ys, after)) :
    ∀ y ∈ ys, ∃ x ∈ xs, ∃ before later, (f x).result before = (.ok (some y), later) := by
  induction xs generalizing w ys with
  | nil =>
      rw [List.filterMapM_nil] at h
      cases h
      nofun
  | cons x xs ih =>
      rw [List.filterMapM_cons] at h
      obtain ⟨found, between, first, h⟩ := of_bind_ok h
      cases found with
      | none =>
          intro y member
          obtain ⟨z, among, given⟩ := ih h y member
          exact ⟨z, List.mem_cons_of_mem _ among, given⟩
      | some b =>
          obtain ⟨rest, _, others, h⟩ := of_bind_ok h
          cases h
          intro y member
          rcases List.mem_cons.mp member with rfl | member
          · exact ⟨x, List.mem_cons_self, w, between, first⟩
          · obtain ⟨z, among, given⟩ := ih others y member
            exact ⟨z, List.mem_cons_of_mem _ among, given⟩

end Engine

namespace RouteSearch

variable {s : Settings Int} {search : RouteSearch Int} {prices : List (VenueKind × Int)}
  {least now : Int} {pair : TokenPair} {kind : RouteKind} {w after : World Int}

/-- A profit that is worth while is at least the minimum. -/
theorem le_of_profit?_ok {entry exit expected : Int}
    (h : profit? entry exit least = .ok (some expected)) : least ≤ expected := by
  unfold profit? at h
  split at h
  · cases h
  · obtain ⟨gain, _, h⟩ := Except.of_bind_ok h
    obtain ⟨enough, judged, h⟩ := Except.of_bind_ok h
    cases judged
    by_cases worth : least ≤ gain
    · simp only [ofInt_int, worth, decide_true, if_true] at h
      cases h
      exact worth
    · simp only [ofInt_int, worth, decide_false, Bool.false_eq_true, if_false] at h
      cases h

/-- A route that is made promises at least the minimum, and has the limits of the search. -/
theorem of_tryKind_ok {route : ArbitrageRoute}
    (h : (search.tryKind prices least pair now kind).result w = (.ok (some route), after)) :
    ∃ expected, least ≤ expected ∧ route =
      { routeKind := kind, pair, entryVenue := kind.entryVenue, exitVenue := kind.exitVenue
        expectedProfitBps := expected, minProfitBps := least
        maxSlippageBps := search.maxSlippageBps, deadline := now + search.deadlineSeconds } := by
  unfold tryKind at h
  split at h
  · rename_i entry exit _ _
    obtain ⟨_, _, read, h⟩ := of_bind_ok h
    cases read
    obtain ⟨_, _, read, h⟩ := of_bind_ok h
    cases read
    obtain ⟨profit, between, judged, h⟩ := of_bind_ok h
    rw [result_ofExcept] at judged
    obtain ⟨worth, rfl⟩ := Prod.mk.inj judged
    cases profit with
    | none => cases h
    | some expected =>
        obtain ⟨made, _, built, h⟩ := of_bind_ok h
        cases built
        obtain ⟨_, _, _, h⟩ := of_bind_ok h
        obtain ⟨_, _, _, h⟩ := of_bind_ok h
        cases h
        exact ⟨expected, le_of_profit?_ok worth, rfl⟩
  · obtain ⟨_, _, _, h⟩ := of_bind_ok h
    cases h

/-- A search with the limits of consistent settings makes routes within the limits of the guards. -/
theorem find_permitted {kinds : List RouteKind} {routes : List ArbitrageRoute}
    (consistent : s.Consistent) (limited : ofSettings s kinds none none = .ok search)
    (found : (search.find prices least pair now).result w = (.ok routes, after)) :
    ∀ route ∈ routes, route.Permitted s now := by
  cases limited
  intro route member
  obtain ⟨kind, _, _, _, made⟩ := of_filterMapM_ok found route member
  obtain ⟨expected, worth, rfl⟩ := of_tryKind_ok made
  have ahead := consistent.routeDeadline
  have near := consistent.deadlineOrder
  exact
    { profit := worth
      share := consistent.routeSlippage
      slippage := consistent.slippageOrder
      deadline := rfl
      ahead := show now ≤ now + s.routeDeadlineSeconds by omega
      near := show now + s.routeDeadlineSeconds ≤ now + s.maxDeadlineSeconds by omega }

end RouteSearch

/-! ### What a run chooses -/

namespace ArbitrageRoute

theorem best?_mem {routes : List ArbitrageRoute} {best : ArbitrageRoute}
    (chosen : best? routes = some best) : best ∈ routes := by
  cases routes with
  | nil => cases chosen
  | cons first rest =>
      cases chosen
      refine List.foldlRecOn rest _ List.mem_cons_self fun best among c member => ?_
      split
      · exact List.mem_cons_of_mem _ member
      · exact among

/-- Over whole numbers the filter for profit never fails. -/
theorem profitable_eq (least : Int) (routes : List ArbitrageRoute) :
    profitable least routes =
      .ok (routes.filter fun route => decide (least ≤ route.expectedProfitBps)) :=
  Except.filterM_ok _ routes

end ArbitrageRoute

namespace Arbitrageur

variable {s : Arbitrageur Int} {ctx : Context Int} {w after : World Int}

/-- A strategy as it is built under settings. -/
def built (settings : Settings Int) (pair : TokenPair) (feeds : List (VenueKind × Name))
    (amount least : Int) (kinds : List RouteKind) (executes : Bool) (stale wide : Option Int) :
    Arbitrageur Int :=
  { pair, feeds := feeds.foldl (fun table (venue, feed) => Table.put venue feed table) []
    tradeAmount := amount, minProfitBps := least
    search := ⟨kinds, settings.routeMaxSlippageBps, settings.routeDeadlineSeconds⟩
    limits := ⟨settings.maxRelativeConfidenceBps, settings.minConfidence⟩
    executes, maxStaleness := stale, maxConfidence := wide }

section

variable (pair : TokenPair) (feeds : List (VenueKind × Name)) (amount least : Int)
  (kinds : List RouteKind) (executes : Bool) (stale wide : Option Int)

theorem result_launch (w : World Int) :
    (launch pair feeds amount least kinds executes stale wide).result w =
      (do let s := built w.settings pair feeds amount least kinds executes stale wide
          log .info "STRATEGY_INITIALIZED_Arbitrage"
            [("strategy_name", .text s.name), ("venues", .strings (s.feeds.map (·.1.name))),
              ("min_profit_bps", .int least)]
          return s : Engine Int (Arbitrageur Int)).result w := rfl

variable {pair feeds amount least kinds executes stale wide}

theorem of_launch_ok
    (launched : (launch pair feeds amount least kinds executes stale wide).result w =
      (.ok s, after)) : s = built w.settings pair feeds amount least kinds executes stale wide := by
  rw [result_launch] at launched
  obtain ⟨_, _, _, launched⟩ := of_bind_ok launched
  cases launched
  rfl

/-- A strategy is launched where its announcement can be journalled. -/
theorem launch_ok (bound : Json.fieldsWritable w.journal.bound = true)
    (writable : Numeral.isWritable least = true) :
    ∃ after, (launch pair feeds amount least kinds executes stale wide).result w =
      (.ok (built w.settings pair feeds amount least kinds executes stale wide), after) ∧
        w.Noted after := by
  have named (names : List String) : Json.isWritable (.strings names) = true := by
    rw [Json.strings, Json.isWritable]
    induction names with
    | nil => rfl
    | cons name names ih => exact ih
  have own (s : Arbitrageur Int) : Json.fieldsWritable
      [("strategy_name", .text s.name), ("venues", .strings (s.feeds.map (·.1.name))),
        ("min_profit_bps", .int least)] = true := by
    simp only [Json.fieldsWritable, named, Json.isWritable, writable, Bool.and_self]
  obtain ⟨after, logged, noted⟩ :=
    log_ok .info "STRATEGY_INITIALIZED_Arbitrage" (by decide) bound (own _)
  refine ⟨after, ?_, noted⟩
  rw [result_launch]
  dsimp only
  rw [result_bind, logged]
  rfl

end

/-- The route that a run chooses was made by its search at the time of the run. -/
theorem of_scan_ok {routes : List ArbitrageRoute}
    (scanned : (s.scan ctx).result w = (.ok routes, after)) :
    w.halt = none ∧ ∃ prices between found,
      (s.search.find prices s.minProfitBps s.pair ctx.now).result between = (.ok found, after) ∧
        ∀ route ∈ routes, route ∈ found := by
  obtain ⟨_, _, checked, scanned⟩ := of_bind_ok scanned
  obtain ⟨prices, between, _, scanned⟩ := of_bind_ok scanned
  obtain ⟨found, _, searched, scanned⟩ := of_bind_ok scanned
  rw [result_ofExcept] at scanned
  obtain ⟨kept, rfl⟩ := Prod.mk.inj scanned
  rw [ArbitrageRoute.profitable_eq] at kept
  cases kept
  refine ⟨?_, prices, between, found, searched, fun _ member => (List.mem_filter.mp member).1⟩
  rw [HaltSwitch.result_check] at checked
  cases halted : w.halt with
  | none => rfl
  | some reason =>
      rw [halted] at checked
      cases checked

/-- The guards in front of a route never stop a route that a run has chosen. -/
theorem chosen_passes {settings : Settings Int} {kinds : List RouteKind}
    {routes : List ArbitrageRoute} {best : ArbitrageRoute} (consistent : settings.Consistent)
    (limited : RouteSearch.ofSettings settings kinds none none = .ok s.search)
    (same : w.settings = settings) (scanned : (s.scan ctx).result w = (.ok routes, after))
    (chosen : ArbitrageRoute.best? routes = some best) :
    (best.preflight ctx.now).result after = (.ok best.maxSlippageBps, after) := by
  have noted := s.scan_noted ctx w
  rw [scanned] at noted
  obtain ⟨running, prices, between, found, searched, kept⟩ := of_scan_ok scanned
  have permitted := RouteSearch.find_permitted consistent limited searched best
    (kept best (ArbitrageRoute.best?_mem chosen))
  have seconds := consistent.routeDeadline
  rw [permitted.preflight_eq (noted.settings.trans same) (by omega), result_bind,
    HaltSwitch.result_check, noted.halt, running]
  rfl

/-- Under settings that pass the check at startup, the guards agree with the search. A route that a
    run of any strategy has chosen passes them, and the run goes on to execute it; and every route
    that is made at some time is within the cap on slippage and the range of deadlines at that time,
    and is from then to its deadline stopped by nothing but a halt. -/
theorem routes_pass_guards {started : World Int}
    (accepted : (Startup.checkSettings.result started).1 = .ok ()) :
    (∀ pair feeds amount least kinds executes stale wide (w launching : World Int)
        (strategy : Arbitrageur Int), w.settings = started.settings →
      (launch pair feeds amount least kinds executes stale wide).result w =
        (.ok strategy, launching) →
      ∀ (ctx : Context Int) (ready searched : World Int) routes best,
        ready.settings = started.settings →
        (strategy.scan ctx).result ready = (.ok routes, searched) →
        ArbitrageRoute.best? routes = some best →
        (best.preflight ctx.now).result searched = (.ok best.maxSlippageBps, searched) ∧
          (strategy.executes = true →
            (strategy.run ctx).result ready = (strategy.attempt routes best ctx).result searched ∧
              AttemptEnd routes ((best.execute strategy.tradeAmount ctx).result searched)
                ((strategy.run ctx).result ready))) ∧
    ∀ kinds search, RouteSearch.ofSettings started.settings kinds none none = .ok search →
      ∀ prices least pair (now : Int) (w searched : World Int) routes,
        (search.find prices least pair now).result w = (.ok routes, searched) →
        ∀ route ∈ routes,
          Guard.slippage started.settings route.maxSlippageBps = .ok route.maxSlippageBps ∧
          Guard.deadline started.settings route.deadline now = .ok route.deadline ∧
          ∀ later ≤ now + started.settings.routeDeadlineSeconds, ∀ ready : World Int,
            ready.settings = started.settings → (route.preflight later).result ready =
              (do HaltSwitch.check; return route.maxSlippageBps : Engine Int Int).result ready := by
  have consistent := Startup.consistent_of_checkSettings accepted
  constructor
  · intro pair feeds amount least kinds executes stale wide w _ strategy same launched ctx ready
      searched routes best unchanged scanned chosen
    cases of_launch_ok launched
    have limited : RouteSearch.ofSettings started.settings kinds none none =
        .ok (built w.settings pair feeds amount least kinds executes stale wide).search := by
      rw [same]
      rfl
    exact ⟨chosen_passes consistent limited unchanged scanned chosen,
      fun executes => ⟨run_of_scan executes scanned chosen, run_ends executes scanned chosen⟩⟩
  · intro kinds search limited prices least pair now w searched routes found route member
    have permitted := RouteSearch.find_permitted consistent limited found route member
    exact ⟨permitted.slippage_ok, permitted.deadline_ok,
      fun later inTime ready same => permitted.preflight_eq same inTime⟩

/-- An engine with the standard settings. Nothing is shown of the journal. -/
def standardWorld : World Int := { settings := .standard, journal := { threshold := 60 } }

/-- The route that the pair of prices makes, under the standard settings. -/
def standardRoute : ArbitrageRoute :=
  { ArbitrageRoute.pairRoute with
    expectedProfitBps := 200, minProfitBps := 50, maxSlippageBps := 100, deadline := 60 }

/-- The end of a run of the pair's strategy up to its choice. -/
def standardScan : Except Fault (List ArbitrageRoute) × World Int :=
  (pairStrategy.scan pricedContext).result standardWorld

theorem standardRoute_passes :
    (standardRoute.preflight 0).result standardScan.2 = (.ok 100, standardScan.2) ∧
      Guard.deadline (.standard : Settings Int) 60 0 = .ok 60 ∧
      ((standardRoute.preflight 60).result standardWorld).1 = .ok 100 := by
  have accepted : (Startup.checkSettings.result standardWorld).1 = .ok () := rfl
  obtain ⟨chosen, made⟩ := routes_pass_guards accepted
  obtain ⟨_, launched, _⟩ := launch_ok (w := standardWorld) rfl
    (Numeral.isWritable_of_u64 (by decide) (by decide) : Numeral.isWritable 50 = true)
  have passes := (chosen pairStrategy.pair pairStrategy.feeds 10000 50 RouteKind.defaultCycle true
    none none standardWorld _ pairStrategy rfl launched pricedContext standardWorld standardScan.2
    [standardRoute] standardRoute rfl rfl rfl).1
  obtain ⟨_, near, lasts⟩ := made RouteKind.defaultCycle pairStrategy.search rfl
    [(.raydium, 100000000), (.jupiter, 102000000)] 50 pairStrategy.pair 0 standardWorld _
    [standardRoute] rfl standardRoute List.mem_cons_self
  refine ⟨passes, near, ?_⟩
  rw [lasts 60 (by decide) standardWorld rfl]
  rfl

end Arbitrageur

end TradingEngine
