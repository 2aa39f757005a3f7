import TradingEngine.Proofs.Venue.Paper
import TradingEngine.Proofs.Wording
import TradingEngine.Strategy.Arbitrage

/-! # One leg of a route

Where every venue is a paper venue, a leg either fills and changes one pool by its fill, or it fails
and changes none. It never breaks down in between: what it journals are names and amounts of 64
bits, and the least output that it asks for is below the quote of the same reserves.
-/

namespace TradingEngine

open Engine Quantity

theorem Guard.minimumOut_of_le {out least : Int} (covered : least ≤ out) :
    minimumOut out least = .ok out := by
  simp only [minimumOut, Quantity.lt_int, Except.ok_bind]
  rw [decide_eq_false (Int.not_lt.mpr covered)]
  rfl

namespace Pool

variable {p : Pool Int} {token : Name} {amountIn out least slippageBps : Int}

theorem quote_bounds (quoted : p.quote token amountIn = .ok out) :
    (0 ≤ amountIn ∧ amountIn ≤ u64Max) ∧ 0 ≤ out ∧ out ≤ u64Max := by
  obtain ⟨_, _, quoted⟩ := Except.of_bind_ok quoted
  exact ConstantProduct.swapOutput_bounds quoted

theorem sides_worded (tokens : p.tokenA.isWritable = true ∧ p.tokenB.isWritable = true)
    (named : token.isWritable = true) : Worded (p.sides token) := by
  unfold sides
  split
  · exact worded_ok _
  · split
    · exact worded_ok _
    · refine worded_refuse ?_
      simp only [Cause.shownValues, Json.allWritable, named, tokens.1, tokens.2, Bool.and_self]

theorem quote_worded (tokens : p.tokenA.isWritable = true ∧ p.tokenB.isWritable = true)
    (named : token.isWritable = true) : Worded (p.quote token amountIn) :=
  worded_bind (sides_worded tokens named) fun _ _ =>
    (ConstantProduct.swapOutput_overflows _ _ _ _).worded

/-- A swap at no less than the quote can only fail where the reserve outgrows its range. -/
theorem sale_worded (quoted : p.quote token amountIn = .ok out) (covered : least ≤ out) :
    Worded (p.sale token amountIn (some least) slippageBps) := by
  rw [sale, quoted, Except.ok_bind]
  refine worded_bind (worded_ok _) fun minimum same => ?_
  cases same
  dsimp only
  rw [Guard.minimumOut_of_le covered, Except.ok_bind]
  exact worded_bind (Checked.toU64_overflows _).worded fun _ _ => worded_ok out

end Pool

namespace World

variable {w after : World Int} {kind : VenueKind} {key : Key} {p q : Pool Int}

/-- Every registered venue is a paper venue. A pool declares its tokens as names, and a run binds
    its names to the journal; of both it matters only that they can be written, as names can. -/
structure OnPaper (w : World Int) : Prop where
  venues : ∀ kind venue, Table.get? kind w.venues = some venue → ∃ v, venue = .paper v
  tokens : ∀ kind key p, w.pool? kind key = some p →
    p.tokenA.isWritable = true ∧ p.tokenB.isWritable = true
  bound : Json.fieldsWritable w.journal.bound = true

theorem OnPaper.journalled (onPaper : w.OnPaper) (h : w.Journalled after) : after.OnPaper where
  venues kind venue := by
    rw [h.venues]
    exact onPaper.venues kind venue
  tokens kind key p := by
    rw [pool?_of_venues h.venues]
    exact onPaper.tokens kind key p
  bound := by
    rw [h.bound]
    exact onPaper.bound

theorem OnPaper.noted (onPaper : w.OnPaper) (h : w.Noted after) : after.OnPaper :=
  onPaper.journalled h.journalled

theorem OnPaper.setPool (onPaper : w.OnPaper) (held : w.pool? kind key = some p)
    (tokenA : q.tokenA = p.tokenA) (tokenB : q.tokenB = p.tokenB) :
    (w.setPool kind key q).OnPaper where
  venues other venue found := by
    by_cases same : other = kind
    · subst same
      obtain ⟨v, here, _⟩ := of_pool? held
      simp only [World.setPool, here, Table.get?_put_self] at found
      exact ⟨_, (Option.some.inj found).symm⟩
    · rw [get?_setPool_of_ne same] at found
      exact onPaper.venues other venue found
  tokens other k r found := by
    by_cases same : other = kind ∧ k = key
    · obtain ⟨rfl, rfl⟩ := same
      rw [pool?_setPool held] at found
      cases found
      rw [tokenA, tokenB]
      exact onPaper.tokens other k p held
    · rw [pool?_setPool_of_ne (Decidable.not_and_iff_or_not.mp same)] at found
      exact onPaper.tokens other k r found
  bound := by
    rw [(setPool_traded kind key q w).bound]
    exact onPaper.bound

end World

/-- A fault of the exit leg with the fill of the entry leg. Only a failure can carry it. -/
def Fault.withFill (bought : Fill) : Fault → Fault
  | .failure f => .failure { f with entryFill := some bought }
  | f => f

namespace ArbitrageRoute

variable {w : World Int} {venue : VenueKind} {pool token : Text} {amountIn slippage n : Int}

/-- How a leg ends: it fills, and its pool has taken in and paid out what the fill says, or it
    fails, and no pool has changed. `opened` is the fill that its failure carries. -/
inductive LegEnd (opened : Option Fill) (w : World Int) (venue : VenueKind) (pool token : Text)
    (amountIn : Int) : Except Fault Fill × World Int → Prop
  | filled (p : Pool Int) (out : Int) (after : World Int) :
      w.pool? venue (.text pool) = some p → p.quote (.text token) amountIn = .ok out →
      (w.setPool venue (.text pool) (p.exchanged (.text token) amountIn out)).Noted after →
      LegEnd opened w venue pool token amountIn (.ok ⟨amountIn, out⟩, after)
  | failed (cause : Cause) (after : World Int) : w.SamePools after →
      LegEnd opened w venue pool token amountIn (.error (.failure ⟨cause, opened⟩), after)

theorem LegEnd.of_worded {f : Fault} {after : World Int} (worded : f.Worded)
    (same : w.SamePools after) : LegEnd none w venue pool token amountIn (.error f, after) := by
  obtain ⟨cause, rfl⟩ := worded
  exact .failed cause after same

/-- The swap of a leg, at no less than what the same reserves have just quoted. -/
theorem swap_ends (onPaper : w.OnPaper) (allowed : Guard.slippage w.settings slippage = .ok n)
    {v : PaperVenue Int} {p : Pool Int} {out least : Int}
    (here : Table.get? venue w.venues = some (.paper v))
    (found : Table.get? (.text pool) v.pools = some p)
    (quoted : p.quote (.text token) amountIn = .ok out) (covered : least ≤ out) :
    LegEnd none w venue pool token amountIn
      ((Trade.swap venue (.text pool) (.text token) amountIn (some least) slippage).result w) := by
  have held : w.pool? venue (.text pool) = some p := (World.pool?_eq here).trans found
  simp only [Trade.swap]
  rw [result_bind, Registry.result_find, here]
  dsimp only
  rw [result_bind, HaltSwitch.result_check]
  cases w.halt with
  | some reason => exact .of_worded (Cause.worded rfl) (.of_venues rfl)
  | none =>
      simp only [Option.isSome_none, Bool.false_eq_true, if_false]
      rw [result_bind, result_settings]
      dsimp only
      rw [result_bind, result_ofExcept, allowed]
      dsimp only
      rw [result_bind, Trade.result_onPool here rfl found, PoolStep.result_swap]
      cases sold : p.sale (.text token) amountIn (some least) slippage with
      | error f =>
          exact .of_worded (Pool.sale_worded quoted covered f sold) (World.samePools_setPool held)
      | ok paid =>
          have priced := Pool.of_sale_ok sold
          obtain ⟨⟨lowIn, highIn⟩, lowOut, highOut⟩ := Pool.quote_bounds priced
          have moved : (w.setPool venue (.text pool)
              (p.exchanged (.text token) amountIn paid)).OnPaper := by
            refine onPaper.setPool held ?_ ?_ <;>
              · unfold Pool.exchanged
                split <;> rfl
          have writable : Json.fieldsWritable
              [("venue", .text v.kind.name), ("pool", .text pool), ("token_in", .text token),
                ("amount_in", .int amountIn), ("amount_out", .int paid)] = true := by
            simp only [Json.fieldsWritable, Json.isWritable, Bool.and_self,
              Numeral.isWritable_of_u64 lowIn highIn, Numeral.isWritable_of_u64 lowOut highOut]
          obtain ⟨after, logged, noted⟩ :=
            log_ok .info "POOL_SWAP_FILLED" (by decide) moved.bound writable
          dsimp only
          rw [Trade.filled, result_bind, toJson_int, toJson_int, logged, Fill.ofQuantities_int]
          exact .filled p paid after held priced noted

/-- A leg fills or leaves every pool alone. -/
theorem leg_ends (onPaper : w.OnPaper) (allowed : Guard.slippage w.settings slippage = .ok n)
    (venue : VenueKind) (pool token : Text) (amountIn : Int) :
    LegEnd none w venue pool token amountIn
      ((leg venue pool token amountIn slippage).result w) := by
  simp only [leg]
  rw [result_bind]
  cases here : Table.get? venue w.venues with
  | none =>
      rw [Trade.quote, result_bind, Registry.result_find, here]
      exact .of_worded (Cause.worded rfl) (.of_venues rfl)
  | some registered =>
      obtain ⟨v, rfl⟩ := onPaper.venues venue registered here
      rw [Trade.result_quote amountIn here, PaperVenue.quote, PaperVenue.pool, Table.keyed?_text]
      cases found : Table.get? (.text pool) v.pools with
      | none => exact .of_worded (Cause.worded rfl) (.of_venues rfl)
      | some p =>
          have tokens := onPaper.tokens venue (.text pool) p ((World.pool?_eq here).trans found)
          dsimp only
          rw [Except.ok_bind]
          cases quoted : p.quote (.text token) amountIn with
          | error f =>
              exact .of_worded (Pool.quote_worded tokens rfl f quoted) (.of_venues rfl)
          | ok expected =>
              dsimp only
              rw [result_bind, result_ofExcept]
              cases kept : ConstantProduct.haircut expected slippage with
              | error f =>
                  have worded := (ConstantProduct.haircut_overflows _ _).worded f kept
                  exact .of_worded worded (.of_venues rfl)
              | ok least =>
                  exact swap_ends onPaper allowed here found quoted
                    (ConstantProduct.of_haircut_ok kept).2.2

theorem leg_traded (venue : VenueKind) (pool token : Text) (amountIn slippage : Int) :
    Within World.Traded (leg venue pool token amountIn slippage) :=
  within_bind (Trade.quote_noted _ _ _ _).traded fun _ => within_bind (within_ofExcept _)
    fun _ => Trade.swap_traded _ _ _ _ _ _

/-- A leg that fills has been paid the quote of its pool. -/
theorem of_leg_ok {after : World Int} {p : Pool Int} {fill : Fill}
    (held : w.pool? venue (.text pool) = some p)
    (filled : (leg venue pool token amountIn slippage).result w = (.ok fill, after)) :
    ∃ out, p.quote (.text token) amountIn = .ok out ∧ fill = ⟨amountIn, out⟩ ∧
      (w.setPool venue (.text pool) (p.exchanged (.text token) amountIn out)).Noted after := by
  obtain ⟨_, _, quoted, filled⟩ := of_bind_ok filled
  rw [Trade.result_quote_of_pool? rfl held] at quoted
  cases (Prod.mk.inj quoted).2
  obtain ⟨_, _, kept, filled⟩ := of_bind_ok filled
  rw [result_ofExcept] at kept
  cases (Prod.mk.inj kept).2
  obtain ⟨out, sold, same, noted⟩ := Trade.of_swap_ok rfl held filled
  exact ⟨out, Pool.of_sale_ok sold, same, noted⟩

/-- A sale that fills is the exit leg. -/
theorem of_sell_ok {route : ArbitrageRoute} {bought fill : Fill} {after : World Int}
    (sold : (route.sell bought amountIn slippage).result w = (.ok fill, after)) :
    (leg route.exitVenue route.pair.symbol route.pair.base bought.amountOut slippage).result w =
      (.ok fill, after) := by
  simp only [sell] at sold
  rw [result_bind, result_attempt, ofInt_int] at sold
  cases left : (leg route.exitVenue route.pair.symbol route.pair.base bought.amountOut
    slippage).result w with
  | mk ended between =>
      rw [left] at sold
      cases ended with
      | ok paid => exact sold
      | error f =>
          cases f with
          | refused record problems => cases sold
          | breakdown b => cases sold
          | failure e =>
              obtain ⟨_, _, _, sold⟩ := of_bind_ok sold
              cases sold

/-- A sale that fails is journalled, and its failure carries the entry fill. -/
theorem sell_of_failed (route : ArbitrageRoute) (bought : Fill) (amountIn : Int) {f : Fault}
    {left : World Int}
    (failed : (leg route.exitVenue route.pair.symbol route.pair.base bought.amountOut
      slippage).result w = (.error f, left))
    (bound : Json.fieldsWritable left.journal.bound = true)
    (writable : Numeral.isWritable bought.amountOut = true ∧ Numeral.isWritable amountIn = true) :
    ∃ after, (route.sell bought amountIn slippage).result w = (.error (f.withFill bought), after) ∧
      left.Noted after := by
  simp only [sell]
  rw [result_bind, result_attempt, ofInt_int, failed]
  dsimp only
  cases f with
  | refused record problems => exact ⟨left, rfl, Frame.refl left⟩
  | breakdown b => exact ⟨left, rfl, Frame.refl left⟩
  | failure e =>
      have own : Json.fieldsWritable
          [("route_kind", .text route.routeKind.name), ("venue", .text route.entryVenue.name),
            ("pool", .text route.pair.symbol), ("token", .text route.pair.base),
            ("amount", .int bought.amountOut), ("quote_spent", .int amountIn),
            ("code", .text e.code), ("error", .text e.message)] = true := by
        simp only [Json.fieldsWritable, Json.isWritable, Bool.and_self, writable.1, writable.2]
      obtain ⟨after, logged, noted⟩ := log_ok .error "ARB_OPEN_POSITION" (by decide) bound own
      refine ⟨after, ?_, noted⟩
      dsimp only
      rw [toJson_int, result_bind, logged]
      rfl

/-- The sale of what was bought: where it fails, the failure carries the entry fill. -/
theorem sell_ends (route : ArbitrageRoute) (bought : Fill) (onPaper : w.OnPaper)
    (allowed : Guard.slippage w.settings slippage = .ok n)
    (spent : 0 ≤ amountIn ∧ amountIn ≤ u64Max)
    (held : 0 ≤ bought.amountOut ∧ bought.amountOut ≤ u64Max) :
    LegEnd (some bought) w route.exitVenue route.pair.symbol route.pair.base bought.amountOut
      ((route.sell bought amountIn slippage).result w) := by
  have ends := leg_ends onPaper allowed route.exitVenue route.pair.symbol route.pair.base
    bought.amountOut
  have traded := leg_traded route.exitVenue route.pair.symbol route.pair.base bought.amountOut
    slippage w
  cases left : (leg route.exitVenue route.pair.symbol route.pair.base bought.amountOut
    slippage).result w with
  | mk r after =>
      rw [left] at ends traded
      cases ends with
      | filled p out _ here quoted noted =>
          simp only [sell]
          rw [result_bind, result_attempt, ofInt_int, left]
          exact .filled p out after here quoted noted
      | failed cause _ same =>
          have bound : Json.fieldsWritable after.journal.bound = true := by
            rw [traded.bound]
            exact onPaper.bound
          obtain ⟨noting, failed, noted⟩ := route.sell_of_failed bought amountIn left bound
            ⟨Numeral.isWritable_of_u64 held.1 held.2, Numeral.isWritable_of_u64 spent.1 spent.2⟩
          rw [failed]
          exact .failed cause noting (same.trans (.of_venues noted.venues))

end ArbitrageRoute

end TradingEngine
