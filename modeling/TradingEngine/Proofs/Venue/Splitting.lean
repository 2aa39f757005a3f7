import TradingEngine.Proofs.SwapCost
import TradingEngine.Proofs.Venue.ShareValue

/-! # Splitting a sale

An amount that is sold in parts, one after the other into the same pool, brings in no more than it
is quoted for in one piece. What the fees leave of the parts is no more than what one fee would
leave of their sum, and each part meets reserves that the parts before it have turned against the
seller; the fees that stay in the pool and all the rounding only add to that.
-/

namespace TradingEngine

open Engine

namespace ConstantProduct

open Checked

variable {reserveIn reserveOut : Int}

/-- Fees taken of parts leave no more than one fee taken of their sum. -/
theorem kept_add_le {part rest kept net share : Int}
    (first : quotient (part * share) bpsWhole = .ok kept) (later : net * bpsWhole ≤ rest * share) :
    (kept + net) * bpsWhole ≤ (part + rest) * share := by
  have rounded := quotient_mul_le first (by decide)
  rw [Int.add_mul, Int.add_mul]
  exact Int.add_le_add rounded later

/-- Two payments in a row are covered by the two inputs together, each less its fee: of the first
    input the fee has stayed in the pool as well. -/
theorem covered_add {amountIn kept out net paid : Int} (fee : kept ≤ amountIn) (nonneg : 0 ≤ paid)
    (first : out * reserveIn ≤ kept * (reserveOut - out))
    (later : paid * (reserveIn + amountIn) ≤ net * (reserveOut - out - paid)) :
    (out + paid) * reserveIn ≤ (kept + net) * (reserveOut - (out + paid)) := by
  have stays : paid * kept ≤ paid * amountIn := Int.mul_le_mul_of_nonneg_left fee nonneg
  calc (out + paid) * reserveIn
      = out * reserveIn + paid * (reserveIn + amountIn) - paid * amountIn := by grind
    _ ≤ kept * (reserveOut - out) + net * (reserveOut - out - paid) - paid * kept := by omega
    _ = (kept + net) * (reserveOut - (out + paid)) := by grind

end ConstantProduct

/-- Sales of one token into one pool of a paper venue, each with its fill. Between two sales
    anything but the pool may change. -/
inductive Sales (kind : VenueKind) (key : Key) (token : Name) :
    Pool Int → List Int → List Fill → Prop
  | nil (p : Pool Int) : Sales kind key token p [] []
  | cons {p q : Pool Int} {amountIn : Int} {fill : Fill} {amounts : List Int} {fills : List Fill}
      (w after : World Int) (name : Name) (minimumOut : Option Int) (slippageBps : Int) :
      Key.ofName name = .ok key → w.pool? kind key = some p →
      (Trade.swap kind name token amountIn minimumOut slippageBps).result w = (.ok fill, after) →
      after.pool? kind key = some q → Sales kind key token q amounts fills →
      Sales kind key token p (amountIn :: amounts) (fill :: fills)

namespace Sales

open ConstantProduct

variable {kind : VenueKind} {key : Key} {token : Name} {first : Pool Int} {amounts : List Int}
  {fills : List Fill}

/-- What fills have paid out together. -/
def paid (fills : List Fill) : Int := (fills.map (·.amountOut)).sum

/-- What the sales have paid is covered by what the fees left of their amounts. -/
theorem paid_covered (sold : Sales kind key token first amounts fills) {reserveIn reserveOut : Int}
    (sides : first.sides token = .ok (reserveIn, reserveOut)) (nonneg : 0 ≤ reserveOut) :
    0 ≤ paid fills ∧ paid fills ≤ reserveOut ∧
      ∃ net, net * bpsWhole ≤ amounts.sum * (bpsWhole - first.feeBps) ∧
        paid fills * reserveIn ≤ net * (reserveOut - paid fills) := by
  induction sold generalizing reserveIn reserveOut with
  | nil p =>
      refine ⟨Int.le_refl 0, nonneg, 0, ?_, ?_⟩ <;>
        simp [paid]
  | cons w after name _ _ named held filled left _ ih =>
      obtain ⟨out, sale, rfl, noted⟩ := Trade.of_swap_ok named held filled
      have quoted := Pool.of_sale_ok sale
      obtain ⟨listed, found, swapped⟩ := Except.of_bind_ok quoted
      cases sides.symm.trans found
      obtain ⟨earned, covered, kept, haircut, _, worth⟩ := swapOutput_covered swapped
      -- The next sale meets what this one has left.
      rw [World.pool?_of_venues noted.venues, World.pool?_setPool held] at left
      cases left
      obtain ⟨nonnegRest, coveredRest, net, fees, worthRest⟩ :=
        ih (Pool.sides_exchanged sides _ _) (by omega)
      rw [Pool.feeBps_exchanged] at fees
      obtain ⟨_, _, smaller⟩ := of_haircut_ok haircut
      simp only [paid, List.map_cons, List.sum_cons] at nonnegRest coveredRest worthRest ⊢
      exact ⟨by omega, by omega, kept + net, kept_add_le (haircut_eq haircut).2.2 fees,
        covered_add smaller nonnegRest worth worthRest⟩

/-- What is sold in parts brings in no more than it is quoted for in one piece. -/
theorem paid_le_quote (sold : Sales kind key token first amounts fills) {name : Name}
    {w after : World Int} {whole : Int} (named : Key.ofName name = .ok key)
    (held : w.pool? kind key = some first)
    (quoted : (Trade.quote kind name token amounts.sum).result w = (.ok whole, after)) :
    paid fills ≤ whole := by
  rw [Trade.result_quote_of_pool? named held] at quoted
  obtain ⟨⟨reserveIn, reserveOut⟩, sides, swapped⟩ := Except.of_bind_ok (Prod.mk.inj quoted).1
  obtain ⟨_, _, ⟨nonneg, _⟩, net, kept, _, _⟩ := swapOutput_eq swapped
  obtain ⟨_, covered, partsNet, fees, worth⟩ := sold.paid_covered sides nonneg
  have fewer : partsNet ≤ net :=
    (Checked.le_quotient_iff (haircut_eq kept).2.2 (by decide)).mpr fees
  rw [le_swapOutput_iff swapped kept]
  exact Int.le_trans worth (Int.mul_le_mul_of_nonneg_right fewer (by omega))

/-- Two sales that pay 515 together, of an amount that is quoted for 518. -/
theorem pairPool_paid_le_quote :
    Sales .raydium (.text "A-B") (.text "A") (pairPool 1000 4000 1000) [100, 50]
        [⟨100, 360⟩, ⟨50, 155⟩] ∧
      paid [⟨100, 360⟩, ⟨50, 155⟩] ≤ 518 := by
  have sold : Sales .raydium (.text "A-B") (.text "A") (pairPool 1000 4000 1000) [100, 50]
      [⟨100, 360⟩, ⟨50, 155⟩] := by
    refine .cons (quietWorld _) _ (.text "A-B") none 100 rfl rfl rfl rfl ?_
    refine .cons (quietWorld _) _ (.text "A-B") none 100 rfl rfl rfl rfl ?_
    exact .nil _
  have quoted : (Trade.quote .raydium (.text "A-B") (.text "A") 150).result
      (quietWorld (pairPool 1000 4000 1000)) =
        (.ok 518, quietWorld (pairPool 1000 4000 1000)) := rfl
  exact ⟨sold, sold.paid_le_quote rfl rfl quoted⟩

end Sales

end TradingEngine
