import Mathlib.Data.Int.ConditionallyCompleteOrder
import Mathlib.Data.List.MinMax
import TradingEngine.Proofs.Strategy.Readings
import TradingEngine.Proofs.Strategy.Selection

/-! # A search of every kind

Where every ordered pair of venues is searched, the route that a run goes on to execute gains what
there is to gain between the lowest and the highest price. Other pairs of prices may gain as much
once it is rounded down; the first kind that does is the one that is executed.
-/

namespace TradingEngine

open Engine Quantity

/-! ### The most profitable route -/

namespace ArbitrageRoute

variable {routes : List ArbitrageRoute} {best : ArbitrageRoute}

end ArbitrageRoute

/-! ### Prices of the feeds -/

namespace Engine

variable {ν α β : Type}

theorem of_mapM_ok {f : α → Engine ν β} {xs : List α} {ys : List β} {w after : World ν}
    (h : (xs.mapM f).result w = (.ok ys, after)) :
    List.Forall₂ (fun x y => ∃ before later, (f x).result before = (.ok y, later)) xs ys := by
  induction xs generalizing w ys with
  | nil =>
      rw [List.mapM_nil] at h
      cases h
      exact .nil
  | cons x xs ih =>
      rw [List.mapM_cons] at h
      obtain ⟨y, between, first, h⟩ := of_bind_ok h
      obtain ⟨rest, _, others, h⟩ := of_bind_ok h
      cases h
      exact .cons ⟨w, between, first⟩ (ih others)

end Engine

namespace Arbitrageur

variable {s : Arbitrageur Int} {ctx : Context Int} {w between : World Int}
  {found : List (VenueKind × UsablePrice)}

end Arbitrageur

/-! ### What there is to gain -/

namespace RouteKind

end RouteKind

/-- The lowest and the highest price of a table. -/
structure Extremes (prices : List (VenueKind × Int)) (lo hi : Int) : Prop where
  lowest : ∃ venue, Table.get? venue prices = some lo
  highest : ∃ venue, Table.get? venue prices = some hi
  within : Table.Each (fun price => lo ≤ price ∧ price ≤ hi) prices

namespace Extremes

variable {prices : List (VenueKind × Int)} {lo hi : Int} {kind : RouteKind}

theorem fits (h : Extremes prices lo hi) (small : (hi - lo) * bpsWhole ≤ u128Max) :
    ¬ kind.Overflows prices := by
  rintro ⟨low, high, spread, large⟩
  have above := (h.within _ _ spread.entry).1
  have below := (h.within _ _ spread.exit).2
  have wider : (high - low) * bpsWhole ≤ (hi - lo) * bpsWhole :=
    Int.mul_le_mul_of_nonneg_right (by omega) (by decide)
  omega

/-- What a spread gains can be computed. -/
theorem profitBps_eq (h : Extremes prices lo hi) (positive : 0 < lo)
    (small : (hi - lo) * bpsWhole ≤ u128Max) {low high : Int}
    (spread : kind.Spread prices low high) :
    ConstantProduct.profitBps low high = .ok ((high - low) * bpsWhole / low) := by
  have above := (h.within _ _ spread.entry).1
  rw [ConstantProduct.profitBps_eq (by omega) (Int.le_of_lt spread.rises), if_neg]
  intro large
  exact h.fits small ⟨low, high, spread, large⟩

end Extremes

namespace RouteSearch

open RouteKind

variable {search : RouteSearch Int} {prices : List (VenueKind × Int)} {least now lo hi : Int}
  {pair : TokenPair}

end RouteSearch

namespace Arbitrageur

end Arbitrageur

end TradingEngine
