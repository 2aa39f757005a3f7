import TradingEngine.Proofs.Strategy.Leg
import TradingEngine.Proofs.Tradeless

/-! # The books of a route

However the execution of a route ends, what it reports is what the pools show: both pools have moved
and the amount between them is the same, or only the entry pool has moved and the failure says by
how much, or no pool has. Everything in front of the entry leg only takes notes, and of the faults
only that of a failed sale carries a fill.
-/

namespace TradingEngine

open Engine Quantity

/-! ### In front of the legs -/

namespace ArbitrageRoute

theorem preflight_tradeless (route : ArbitrageRoute) (now : Int) :
    Tradeless (route.preflight now : Engine Int Int) := by
  have guarded : Tradeless (do
      Engine.ofExcept (Guard.slippage (← settings) (ofInt route.maxSlippageBps)) :
        Engine Int Int) :=
    tradeless_bind tradeless_settings fun s =>
      tradeless_ofExcept fun f => Guard.entryFill?_slippage
  refine tradeless_bind HaltSwitch.check_tradeless fun _ => ?_
  dsimp only
  split
  · exact tradeless_fail_bind _ _
  · split
    · exact tradeless_fail_bind _ _
    · exact guarded

theorem of_preflight_ok {route : ArbitrageRoute} {now slippage : Int} {w after : World Int}
    (h : (route.preflight now).result w = (.ok slippage, after)) :
    Guard.slippage after.settings slippage = .ok slippage := by
  simp only [preflight] at h
  obtain ⟨_, between, _, h⟩ := of_bind_ok h
  split at h
  · obtain ⟨_, _, h, _⟩ := of_bind_ok h
    cases h
  · split at h
    · obtain ⟨_, _, h, _⟩ := of_bind_ok h
      cases h
    · obtain ⟨s, _, read, h⟩ := of_bind_ok h
      cases read
      rw [result_ofExcept] at h
      obtain ⟨allowed, rfl⟩ := Prod.mk.inj h
      have same := Guard.of_slippage_ok allowed
      rw [same] at allowed ⊢
      exact allowed

end ArbitrageRoute

/-! ### What the pools show -/

/-- A swap as a pool shows it: the side of `token` has grown by `amountIn`, the other side has
    fallen by `out`, and nothing else of the pool has changed. -/
structure Pool.Moved (token : Name) (amountIn out : Int) (p q : Pool Int) : Prop where
  sides : ∃ reserveIn reserveOut, p.sides token = .ok (reserveIn, reserveOut) ∧
    q.sides token = .ok (reserveIn + amountIn, reserveOut - out)
  rest : { q with reserveA := p.reserveA, reserveB := p.reserveB } = p

theorem Pool.moved_exchanged {p : Pool Int} {token : Name} {amountIn out : Int}
    (quoted : p.quote token amountIn = .ok out) :
    Moved token amountIn out p (p.exchanged token amountIn out) := by
  obtain ⟨sides, listed, _⟩ := Except.of_bind_ok quoted
  refine ⟨⟨sides.1, sides.2, listed, sides_exchanged listed _ _⟩, ?_⟩
  unfold exchanged
  split <;> rfl

namespace World

variable {w between after : World Int} {venue : VenueKind} {pool token : Text} {amountIn out : Int}

/-- A swap as the pool of a venue shows it. -/
def Moved (venue : VenueKind) (pool token : Text) (amountIn out : Int) (w after : World Int) :
    Prop :=
  ∃ p q, w.pool? venue (.text pool) = some p ∧ after.pool? venue (.text pool) = some q ∧
    p.Moved (.text token) amountIn out q

/-- No pool has changed but that of this name at these venues. -/
def SameBut (venues : List VenueKind) (pool : Text) (w after : World Int) : Prop :=
  ∀ kind key, ¬(kind ∈ venues ∧ key = .text pool) → after.pool? kind key = w.pool? kind key

theorem OnPaper.of_filled (onPaper : w.OnPaper) {p : Pool Int} {token : Name}
    (held : w.pool? venue (.text pool) = some p)
    (noted : (w.setPool venue (.text pool) (p.exchanged token amountIn out)).Noted after) :
    after.OnPaper := by
  refine (onPaper.setPool held ?_ ?_).noted noted <;>
    · unfold Pool.exchanged
      split <;> rfl

/-- A pool has taken in an amount of one token and has paid out the other, and no other pool has
    changed. -/
def Exchanged (kind : VenueKind) (key : Key) (token : Name) (amountIn out : Int)
    (w after : World Int) : Prop :=
  (∃ p q, w.pool? kind key = some p ∧ after.pool? kind key = some q ∧
    p.Moved token amountIn out q) ∧
  ∀ other k, other ≠ kind ∨ k ≠ key → after.pool? other k = w.pool? other k

theorem exchanged_of_noted {w after : World Int} {key : Key} {p : Pool Int} {token : Name}
    {amountIn out : Int} (held : w.pool? kind key = some p)
    (quoted : p.quote token amountIn = .ok out)
    (noted : (w.setPool kind key (p.exchanged token amountIn out)).Noted after) :
    w.Exchanged kind key token amountIn out after := by
  refine ⟨⟨p, _, held, ?_, Pool.moved_exchanged quoted⟩, fun other k different => ?_⟩
  · exact (pool?_of_venues noted.venues).trans (pool?_setPool held)
  · exact (pool?_of_venues noted.venues).trans (pool?_setPool_of_ne different)

/-- What a fill leaves of the pools. -/
theorem of_filled {p : Pool Int} (held : w.pool? venue (.text pool) = some p)
    (quoted : p.quote (.text token) amountIn = .ok out)
    (noted : (w.setPool venue (.text pool) (p.exchanged (.text token) amountIn out)).Noted after) :
    w.Moved venue pool token amountIn out after ∧ w.SameBut [venue] pool after := by
  obtain ⟨moved, others⟩ := exchanged_of_noted held quoted noted
  refine ⟨moved, fun kind key elsewhere => others kind key ?_⟩
  rw [List.mem_singleton] at elsewhere
  exact Decidable.not_and_iff_or_not.mp elsewhere

theorem Moved.trans {venues : List VenueKind} (h : w.Moved venue pool token amountIn out between)
    (k : between.SameBut venues pool after) (elsewhere : venue ∉ venues) :
    w.Moved venue pool token amountIn out after := by
  obtain ⟨p, q, before, moved, swapped⟩ := h
  exact ⟨p, q, before, (k _ _ fun here => elsewhere here.1).trans moved, swapped⟩

theorem Moved.of_sameBut {venues : List VenueKind}
    (h : between.Moved venue pool token amountIn out after) (k : w.SameBut venues pool between)
    (elsewhere : venue ∉ venues) : w.Moved venue pool token amountIn out after := by
  obtain ⟨p, q, before, moved, swapped⟩ := h
  exact ⟨p, q, (k _ _ fun here => elsewhere here.1).symm.trans before, moved, swapped⟩

theorem SameBut.trans {first second : VenueKind} (h : w.SameBut [first] pool between)
    (k : between.SameBut [second] pool after) : w.SameBut [first, second] pool after := by
  intro kind key elsewhere
  rw [k kind key, h kind key]
  · rintro ⟨here, same⟩
    exact elsewhere ⟨List.mem_cons.mpr (.inl (List.mem_singleton.mp here)), same⟩
  · rintro ⟨here, same⟩
    exact elsewhere ⟨List.mem_cons_of_mem _ here, same⟩

end World

namespace ArbitrageRoute

/-- Exact books: what the pools show is what the end of a route reports. After a trade both pools
    have moved, and what one has paid of the base token the other has taken in; after a failure with
    a fill the entry pool has moved by that fill; otherwise no pool has. -/
def Books (route : ArbitrageRoute) (amountIn : Int) (w : World Int) :
    Except Fault (Option ExecutedTrade) × World Int → Prop
  | (.ok (some trade), after) => ∃ bought,
    w.Moved route.entryVenue route.pair.symbol route.pair.quote amountIn bought after ∧
      w.Moved route.exitVenue route.pair.symbol route.pair.base bought
        (amountIn + trade.profitLoss) after ∧
      w.SameBut [route.entryVenue, route.exitVenue] route.pair.symbol after
  | (.ok none, after) => w.SamePools after
  | (.error f, after) => match f.entryFill? with
    | some fill =>
      fill.amountIn = amountIn ∧
        w.Moved route.entryVenue route.pair.symbol route.pair.quote fill.amountIn fill.amountOut
          after ∧
        w.SameBut [route.entryVenue] route.pair.symbol after
    | none => w.SamePools after

variable {route : ArbitrageRoute} {w : World Int} {amountIn slippage n : Int}

/-- Of the worlds before and after only the pools count. -/
theorem Books.of_samePools {between after last : World Int}
    {ended : Except Fault (Option ExecutedTrade)}
    (books : route.Books amountIn between (ended, after)) (before : w.SamePools between)
    (since : after.SamePools last) : route.Books amountIn w (ended, last) := by
  have before (kind : VenueKind) (key : Key) : between.pool? kind key = w.pool? kind key :=
    before kind key
  have since (kind : VenueKind) (key : Key) : last.pool? kind key = after.pool? kind key :=
    since kind key
  cases ended with
  | ok result =>
      cases result <;>
        · simp only [Books, World.Moved, World.SameBut, World.SamePools, before, since] at books ⊢
          exact books
  | error f =>
      simp only [Books] at books ⊢
      split at books <;>
        · simp only [World.Moved, World.SameBut, World.SamePools, before, since] at books ⊢
          exact books

theorem books_bind {α : Type} {op : Engine Int α} {next : α → Engine Int (Option ExecutedTrade)}
    (prepared : Tradeless op)
    (rest : ∀ a after, op.result w = (.ok a, after) → w.Noted after →
      route.Books amountIn after ((next a).result after)) :
    route.Books amountIn w ((op >>= next).result w) := by
  have noted := prepared.noted w
  have unfilled := prepared.unfilled w
  rw [result_bind]
  cases ended : op.result w with
  | mk r after =>
      rw [ended] at noted unfilled
      cases r with
      | error f =>
          simp only [Books, unfilled f rfl]
          exact .of_venues noted.venues
      | ok a =>
          exact (rest a after ended noted).of_samePools (.of_venues noted.venues) (.of_venues rfl)

/-- A trade of amounts of 64 bits is reported, whatever it has brought in. -/
theorem report_ok (route : ArbitrageRoute) (onPaper : w.OnPaper) (executedAt : Int)
    {bought paid : Int} (spent : 0 ≤ amountIn ∧ amountIn ≤ u64Max)
    (held : 0 ≤ bought ∧ bought ≤ u64Max) (earned : 0 ≤ paid ∧ paid ≤ u64Max) :
    ∃ last, ((do
      let profitLoss ← Engine.ofExcept (sub paid amountIn)
      let result ← Engine.ofExcept
        (ExecutedTrade.ofQuantities route.routeKind.name route.exitVenue route.pair.symbol
          route.pair.quote amountIn paid profitLoss executedAt)
      Engine.count (.tradesExecuted .arbitrage)
      Engine.log .info "ARB_ROUTE_EXECUTED"
        [("route_kind", .text route.routeKind.name), ("amount_in", Quantity.toJson amountIn),
          ("base_bought", .int bought), ("amount_out", .int paid),
          ("profit_loss", .int result.profitLoss)]
      return some result : Engine Int (Option ExecutedTrade)).result w) =
        (.ok (some ⟨route.routeKind.name, route.exitVenue, route.pair.symbol, route.pair.quote,
          amountIn, paid, paid - amountIn, executedAt⟩), last) ∧ w.SamePools last := by
  have counted : Json.fieldsWritable (w.journal.count (.tradesExecuted .arbitrage)).bound = true :=
    onPaper.bound
  have difference : Numeral.isWritable (paid - amountIn) = true := by
    simp only [u64Max] at spent earned
    exact Numeral.isWritable_of_small (by omega) (by omega)
  have writable : Json.fieldsWritable
      [("route_kind", .text route.routeKind.name), ("amount_in", .int amountIn),
        ("base_bought", .int bought), ("amount_out", .int paid),
        ("profit_loss", .int (paid - amountIn))] = true := by
    simp only [Json.fieldsWritable, Json.isWritable, Bool.and_self, difference,
      Numeral.isWritable_of_u64 spent.1 spent.2, Numeral.isWritable_of_u64 held.1 held.2,
      Numeral.isWritable_of_u64 earned.1 earned.2]
  obtain ⟨last, logged, unchanged⟩ := log_ok .info "ARB_ROUTE_EXECUTED"
    (w := { w with journal := w.journal.count (.tradesExecuted .arbitrage) }) (by decide) counted
    writable
  refine ⟨last, ?_, .of_venues unchanged.venues⟩
  rw [sub_int, result_bind, result_ofExcept]
  dsimp only
  rw [ExecutedTrade.ofQuantities_int, result_bind, result_ofExcept]
  dsimp only
  rw [result_bind, result_count]
  dsimp only
  rw [toJson_int, result_bind, logged]
  rfl

/-- Both legs of a route, and the report of the trade. -/
def trade (route : ArbitrageRoute) (amountIn slippage executedAt : Int) :
    Engine Int (Option ExecutedTrade) := do
  let pool := route.pair.symbol
  let bought ← leg route.entryVenue pool route.pair.quote amountIn slippage
  let sold ← route.sell bought amountIn slippage
  let amountOut : Int := ofInt sold.amountOut
  let profitLoss ← Engine.ofExcept (sub amountOut amountIn)
  let result ← Engine.ofExcept
    (ExecutedTrade.ofQuantities route.routeKind.name route.exitVenue pool route.pair.quote
      amountIn amountOut profitLoss executedAt)
  Engine.count (.tradesExecuted .arbitrage)
  Engine.log .info "ARB_ROUTE_EXECUTED"
    [("route_kind", .text route.routeKind.name), ("amount_in", Quantity.toJson amountIn),
      ("base_bought", .int bought.amountOut), ("amount_out", .int sold.amountOut),
      ("profit_loss", .int result.profitLoss)]
  return some result

theorem legs_keep_books (onPaper : w.OnPaper)
    (allowed : Guard.slippage w.settings slippage = .ok n)
    (apart : route.entryVenue ≠ route.exitVenue) (executedAt : Int) :
    route.Books amountIn w ((route.trade amountIn slippage executedAt).result w) := by
  have ends := leg_ends onPaper allowed route.entryVenue route.pair.symbol route.pair.quote amountIn
  simp only [trade]
  rw [result_bind]
  revert ends
  generalize (leg route.entryVenue route.pair.symbol route.pair.quote amountIn slippage).result w =
    ended
  intro ends
  cases ends with
  | failed cause after same => exact same
  | filled p bought between held quoted noted =>
      obtain ⟨spent, boughtSize⟩ := Pool.quote_bounds quoted
      obtain ⟨entered, elsewhere⟩ := World.of_filled held quoted noted
      have moved := onPaper.of_filled held noted
      have settings : between.settings = w.settings :=
        noted.settings.trans (World.setPool_traded _ _ _ w).settings
      have ends := route.sell_ends ⟨amountIn, bought⟩ moved (settings ▸ allowed) spent boughtSize
      dsimp only
      rw [result_bind]
      revert ends
      generalize (route.sell ⟨amountIn, bought⟩ amountIn slippage).result between = ended
      intro ends
      cases ends with
      | failed cause after same =>
          have books : route.Books amountIn w
              (.error (.failure ⟨cause, some ⟨amountIn, bought⟩⟩), between) :=
            ⟨rfl, entered, elsewhere⟩
          exact books.of_samePools (.of_venues rfl) same
      | filled q paid after held quoted noted =>
          obtain ⟨_, paidSize⟩ := Pool.quote_bounds quoted
          obtain ⟨left, others⟩ := World.of_filled held quoted noted
          obtain ⟨last, reported, same⟩ := route.report_ok (moved.of_filled held noted) executedAt
            spent boughtSize paidSize
          dsimp only
          rw [ofInt_int, reported]
          refine Books.of_samePools ?_ (.of_venues rfl) same
          have balance : amountIn + (paid - amountIn) = paid := by omega
          refine ⟨bought, entered.trans others ?_, ?_, elsewhere.trans others⟩
          · rw [List.mem_singleton]
            exact apart
          · rw [balance]
            refine left.of_sameBut elsewhere ?_
            rw [List.mem_singleton]
            exact apart.symm

/-- However a route ends, its books are exact. -/
theorem execute_keeps_books (route : ArbitrageRoute) (amountIn : Int) (ctx : Context Int)
    {w : World Int} (onPaper : w.OnPaper) (apart : route.entryVenue ≠ route.exitVenue) :
    route.Books amountIn w ((route.execute amountIn ctx).result w) := by
  simp only [execute]
  refine books_bind (route.preflight_tradeless ctx.now) fun slippage ready passed noted => ?_
  have allowed := of_preflight_ok passed
  have onPaper := onPaper.noted noted
  refine books_bind (ctx.risk.allow_tradeless ctx.metrics amountIn) fun granted _ judged noted => ?_
  cases granted with
  | false => exact .of_venues rfl
  | true =>
      obtain ⟨_, rfl⟩ := RiskLimits.of_allow_ok judged
      refine books_bind (Registry.require_tradeless _) fun _ atEntry _ noted => ?_
      rw [← noted.settings] at allowed
      have onPaper := onPaper.noted noted
      refine books_bind (Registry.require_tradeless _) fun _ atExit _ noted => ?_
      rw [← noted.settings] at allowed
      exact legs_keep_books (onPaper.noted noted) allowed apart ctx.now

/-- A paper venue with one pool of a pair. -/
def pairVenue (kind : VenueKind) (base quote : Int) : Venue Int :=
  .paper { kind, pools := [(.text "SOL/USDC",
    { tokenA := .text "SOL", tokenB := .text "USDC", reserveA := base, reserveB := quote
      feeBps := 30, lpSupply := 1 })] }

/-- Two venues with a pool of one pair, the second with `base` of its base token. Nothing is shown
    of the journal. -/
def pairWorld (base : Int) : World Int :=
  { settings := .standard
    journal := { threshold := 60 }
    venues := [(.raydium, pairVenue .raydium 1000000 1000000),
      (.jupiter, pairVenue .jupiter base 2000000)] }

/-- Buys on the first of these venues and sells on the second. -/
def pairRoute : ArbitrageRoute :=
  { routeKind := .raydiumJupiter, pair := ⟨"SOL", "USDC"⟩, entryVenue := .raydium
    exitVenue := .jupiter, expectedProfitBps := 10000, minProfitBps := 100, maxSlippageBps := 50
    deadline := 60 }

/-- A caller that may trade 10000. -/
def pairContext : Context Int :=
  { oracle := { now := 0 }, risk := { maxTradeSize := 10000, dailyLossLimit := 0 }
    metrics := .none, now := 0 }

theorem onPaper_pairWorld (base : Int) : (pairWorld base).OnPaper where
  venues kind venue found := by
    cases kind <;> cases found <;> exact ⟨_, rfl⟩
  tokens kind key p held := by
    obtain ⟨v, found, held⟩ := World.of_pool? held
    cases kind <;> cases found <;>
      · cases List.mem_singleton.mp (Table.mem_of_get? held)
        exact ⟨rfl, rfl⟩
  bound := rfl

/-- What the route comes to with this amount of the base token at the exit. -/
def pairTrade (base : Int) : Except Fault (Option ExecutedTrade) × World Int :=
  (pairRoute.execute 10000 pairContext).result (pairWorld base)

/-- The route makes its profit, but where the exit pool is full it leaves an open position. -/
theorem pairTrade_books :
    (pairTrade 1000000).1.toOption.join.map (·.profitLoss) = some 9490 ∧
      pairRoute.Books 10000 (pairWorld 1000000) (pairTrade 1000000) ∧
      (match (pairTrade u64Max).1 with
        | .error f => f.entryFill?
        | .ok _ => none) = some ⟨10000, 9871⟩ ∧
      pairRoute.Books 10000 (pairWorld u64Max) (pairTrade u64Max) := by
  refine ⟨rfl, ?_, rfl, ?_⟩
  · exact pairRoute.execute_keeps_books 10000 pairContext (onPaper_pairWorld _) (by decide)
  · exact pairRoute.execute_keeps_books 10000 pairContext (onPaper_pairWorld _) (by decide)

end ArbitrageRoute

end TradingEngine
