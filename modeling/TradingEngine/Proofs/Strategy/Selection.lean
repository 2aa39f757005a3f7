import TradingEngine.Proofs.Strategy.RouteLimits
import TradingEngine.Proofs.Table

/-! # The routes that a search finds

Over prices that have passed their checks a search is a filter of the kinds that it is given. A kind
is found if both its venues have a price, the exit price is above the entry price, and the gain,
rounded down, is at least the minimum; a gain too large to be computed ends the search. Beside that
a search can only break down over an entry of its journal.
-/

namespace TradingEngine

open Engine Quantity

/-! ### Prices that have passed their checks -/

/-- Every entry that is found in the table is like this. -/
def Table.Each {κ α : Type} [DecidableEq κ] (P : α → Prop) (table : List (κ × α)) : Prop :=
  ∀ key v, get? key table = some v → P v

namespace PriceQuote

/-- The quote that counts for a venue: the last one. -/
def lastOf (venue : VenueKind) (quotes : List PriceQuote) : Option PriceQuote :=
  quotes.reverse.find? (·.venue = venue)

theorem lastOf_cons (venue : VenueKind) (q : PriceQuote) (quotes : List PriceQuote) :
    lastOf venue (q :: quotes) =
      (lastOf venue quotes).or (if q.venue = venue then some q else none) := by
  simp only [lastOf, List.reverse_cons, List.find?_append, List.find?_singleton,
    decide_eq_true_eq]

theorem mem_of_lastOf {venue : VenueKind} {q : PriceQuote} {quotes : List PriceQuote}
    (h : lastOf venue quotes = some q) : q ∈ quotes :=
  List.mem_reverse.mp (List.mem_of_find?_eq_some h)

variable {q : PriceQuote} {quotes : List PriceQuote} {limits : PriceLimits Int}
  {stale wide : Option Int} {now : Int} {w after : World Int}

theorem narrow_of_fault? {oldest widest : Int}
    (h : q.fault? limits oldest widest now = .ok none) : q.isWide limits = .ok false := by
  obtain ⟨age, _, h⟩ := Except.of_bind_ok h
  obtain ⟨old, _, h⟩ := Except.of_bind_ok h
  cases old with
  | true => cases h
  | false =>
      obtain ⟨low, _, h⟩ := Except.of_bind_ok h
      cases low with
      | true => cases h
      | false =>
          obtain ⟨tooWide, judged, h⟩ := Except.of_bind_ok h
          cases tooWide with
          | true => cases h
          | false => exact judged

/-- A quote that passes its checks has a price that is not zero. -/
theorem of_validate_ok {usable : UsablePrice}
    (h : (q.validate limits stale wide now).result w = (.ok usable, after)) :
    usable.quote = q ∧ q.price ≠ 0 := by
  obtain ⟨_, _, _, h⟩ := of_bind_ok h
  obtain ⟨oldest, _, _, h⟩ := of_bind_ok h
  obtain ⟨widest, _, _, h⟩ := of_bind_ok h
  obtain ⟨found, _, judged, h⟩ := of_bind_ok h
  rw [result_ofExcept] at judged
  cases found with
  | none =>
      cases h
      refine ⟨rfl, fun zero => ?_⟩
      have narrow := narrow_of_fault? (Prod.mk.inj judged).1
      rw [isWide, if_pos zero] at narrow
      cases narrow
  | some cause =>
      dsimp only at h
      split at h
      · obtain ⟨_, _, broke, _⟩ := of_bind_ok h
        cases broke
      · obtain ⟨_, _, _, h⟩ := of_bind_ok h
        obtain ⟨_, _, _, h⟩ := of_bind_ok h
        obtain ⟨_, _, _, h⟩ := of_bind_ok h
        cases h

/-- Validated quotes are filed under their venues, in a table that may hold earlier ones. -/
theorem of_filed_ok {table usable : List (VenueKind × UsablePrice)}
    (h : (quotes.foldlM (fun prices (q : PriceQuote) => do
      let price ← q.validate limits stale wide now
      return Table.put q.venue price prices) table).result w = (.ok usable, after)) :
    (∀ venue, (Table.get? venue usable).map (·.quote) =
      (lastOf venue quotes).or ((Table.get? venue table).map (·.quote))) ∧
      ∀ q ∈ quotes, q.price ≠ 0 := by
  induction quotes generalizing table w with
  | nil =>
      cases h
      exact ⟨fun _ => rfl, nofun⟩
  | cons q quotes ih =>
      rw [List.foldlM_cons] at h
      obtain ⟨_, between, first, h⟩ := of_bind_ok h
      obtain ⟨price, _, passed, first⟩ := of_bind_ok first
      cases first
      obtain ⟨same, nonzero⟩ := of_validate_ok passed
      obtain ⟨filed, others⟩ := ih h
      refine ⟨fun venue => ?_, List.forall_mem_cons.mpr ⟨nonzero, others⟩⟩
      rw [filed, lastOf_cons, Option.or_assoc, Table.get?_put]
      by_cases here : q.venue = venue
      · simp [here, same]
      · simp [here]

/-- The price of a venue is that of its last quote, and none of the quotes has the price zero. -/
theorem of_validateAll_ok {usable : List (VenueKind × UsablePrice)}
    (h : (validateAll limits stale wide now quotes).result w = (.ok usable, after)) :
    (∀ venue, (Table.get? venue usable).map (·.quote) = lastOf venue quotes) ∧
      ∀ q ∈ quotes, q.price ≠ 0 := by
  simpa using of_filed_ok h

end PriceQuote

theorem UsablePrice.get?_prices (venue : VenueKind) (usable : List (VenueKind × UsablePrice)) :
    Table.get? venue (prices usable : List (VenueKind × Int)) =
      (Table.get? venue usable).map (·.quote.price) := by
  induction usable with
  | nil => rfl
  | cons head tail ih =>
      obtain ⟨kind, price⟩ := head
      rw [prices, List.map_cons, Table.get?_cons, Table.get?_cons, ← prices, ih]
      split <;> rfl

theorem UsablePrice.each_prices {P : Int → Prop} {quotes : List PriceQuote}
    {usable : List (VenueKind × UsablePrice)}
    (filed : ∀ venue, (Table.get? venue usable).map (·.quote) = PriceQuote.lastOf venue quotes)
    (each : ∀ q ∈ quotes, P q.price) : Table.Each P (prices usable : List (VenueKind × Int)) := by
  intro venue price found
  rw [get?_prices] at found
  obtain ⟨usable, entered, rfl⟩ := Option.map_eq_some_iff.mp found
  have last := filed venue
  rw [entered] at last
  exact each _ (PriceQuote.mem_of_lastOf last.symm)

/-! ### What an operation comes to, its journal aside -/

namespace Engine

variable {α β : Type} {shown : Prop}

/-- The operation ends like this in every world, unless an entry of its journal cannot be written.
    All of them can be where the bound fields can and what the operation shows. -/
def Ends (shown : Prop) (op : Engine Int α) (r : Except Fault α) : Prop :=
  ∀ w, (op.result w).1 = r ∨ (op.result w).1 = .error (.breakdown .tooManyDigits) ∧
    ¬ (Json.fieldsWritable w.journal.bound = true ∧ shown)

theorem ends_pure (a : α) : Ends shown (pure a) (.ok a) := fun _ => .inl rfl

theorem ends_ofExcept (r : Except Fault α) : Ends shown (ofExcept r) r := by
  intro w
  rw [result_ofExcept]
  exact .inl rfl

theorem ends_count (tally : Tally) : Ends shown (count tally) (.ok ()) := fun _ => .inl rfl

theorem ends_log {level : Level} {event : Text} {fields : Fields}
    (own : shown → Json.fieldsWritable fields = true) :
    Ends shown (log level event fields) (.ok ()) := by
  intro w
  rw [result_log]
  cases written : w.journal.write level event fields with
  | ok journal => exact .inl rfl
  | error b =>
      rw [Journal.of_write_error written]
      exact .inr ⟨rfl, fun tells =>
        Journal.unwritable_of_write_error written ⟨tells.1, own tells.2⟩⟩

theorem ends_bind {op : Engine Int α} {next : α → Engine Int β} {r : Except Fault α}
    {f : α → Except Fault β} (noted : Within World.Noted op) (first : Ends shown op r)
    (rest : ∀ a, r = .ok a → Ends shown (next a) (f a)) : Ends shown (op >>= next) (r >>= f) := by
  intro w
  have kept := noted w
  have begun := first w
  rw [result_bind]
  cases ended : op.result w with
  | mk reached after =>
      rw [ended] at kept begun
      rcases begun with rfl | ⟨broke, untold⟩
      · cases reached with
        | error fault => exact .inl rfl
        | ok a =>
            rw [← kept.bound]
            exact rest a rfl after
      · subst broke
        exact .inr ⟨rfl, untold⟩

theorem ends_then {op : Engine Int α} {next : α → Engine Int β} {a : α} {r : Except Fault β}
    (noted : Within World.Noted op) (first : Ends shown op (.ok a))
    (rest : Ends shown (next a) r) : Ends shown (op >>= next) r := by
  apply ends_bind (f := fun _ => r) noted first
  rintro _ ⟨⟩
  exact rest

theorem ends_filterMapM {op : α → Engine Int (Option β)} {f : α → Except Fault (Option β)}
    (noted : ∀ x, Within World.Noted (op x)) (each : ∀ x, Ends shown (op x) (f x)) (xs : List α) :
    Ends shown (xs.filterMapM op) (xs.filterMapM f) := by
  induction xs with
  | nil =>
      rw [List.filterMapM_nil, List.filterMapM_nil]
      exact ends_pure []
  | cons x xs ih =>
      rw [List.filterMapM_cons, List.filterMapM_cons]
      apply ends_bind (noted x) (each x)
      intro found _
      cases found with
      | none => exact ih
      | some b => exact ends_bind (within_filterMapM noted xs) ih fun _ _ => ends_pure _

end Engine

/-! ### Kinds on which it pays to trade -/

namespace RouteKind

variable {prices : List (VenueKind × Int)} {kind : RouteKind} {low high : Int}

/-- Both venues of the kind have a price, and the exit price is the higher one. -/
structure Spread (prices : List (VenueKind × Int)) (kind : RouteKind) (low high : Int) : Prop where
  entry : Table.get? kind.entryVenue prices = some low
  exit : Table.get? kind.exitVenue prices = some high
  rises : low < high

/-- The gain of the kind is too large to be computed. -/
def Overflows (prices : List (VenueKind × Int)) (kind : RouteKind) : Prop :=
  ∃ low high, kind.Spread prices low high ∧ u128Max < (high - low) * bpsWhole

/-- What the kind gains, in basis points of its entry price, rounded down. -/
def gain? (prices : List (VenueKind × Int)) (kind : RouteKind) : Option Int :=
  match Table.get? kind.entryVenue prices, Table.get? kind.exitVenue prices with
  | some low, some high => if low < high then some ((high - low) * bpsWhole / low) else none
  | _, _ => none

theorem Spread.gain? (h : kind.Spread prices low high) :
    kind.gain? prices = some ((high - low) * bpsWhole / low) := by
  simp [RouteKind.gain?, h.entry, h.exit, h.rises]

theorem of_gain? {gain : Int} (h : kind.gain? prices = some gain) :
    ∃ low high, kind.Spread prices low high ∧ gain = (high - low) * bpsWhole / low := by
  unfold gain? at h
  split at h
  · rename_i low high entry exit
    split at h
    · rename_i rises
      exact ⟨low, high, ⟨entry, exit, rises⟩, (Option.some.inj h).symm⟩
    · cases h
  · cases h

end RouteKind

namespace RouteSearch

open RouteKind

variable {search : RouteSearch Int} {prices : List (VenueKind × Int)} {least now : Int}
  {pair : TokenPair} {kind : RouteKind} {low high : Int}

/-- The route of a kind with this gain. -/
def offer (search : RouteSearch Int) (least : Int) (pair : TokenPair) (now : Int)
    (kind : RouteKind) (gain : Int) : ArbitrageRoute :=
  { routeKind := kind, pair, entryVenue := kind.entryVenue, exitVenue := kind.exitVenue
    expectedProfitBps := gain, minProfitBps := least
    maxSlippageBps := search.maxSlippageBps, deadline := now + search.deadlineSeconds }

/-- The routes of the kinds that gain at least the minimum. -/
def selection (search : RouteSearch Int) (prices : List (VenueKind × Int)) (least : Int)
    (pair : TokenPair) (now : Int) : List ArbitrageRoute :=
  search.kinds.filterMap fun kind =>
    ((kind.gain? prices).filter (least ≤ ·)).map (search.offer least pair now kind)

/-- What becomes of a kind, whatever is journalled of it. -/
def judge (search : RouteSearch Int) (prices : List (VenueKind × Int)) (least : Int)
    (pair : TokenPair) (now : Int) (kind : RouteKind) : Except Fault (Option ArbitrageRoute) :=
  match Table.get? kind.entryVenue prices, Table.get? kind.exitVenue prices with
  | some low, some high => do
    return (← profit? low high least).map (search.offer least pair now kind)
  | _, _ => .ok none

theorem profit?_of_le (falls : high ≤ low) : profit? low high least = .ok none := by
  rw [profit?, if_pos falls]
  rfl

theorem profit?_of_lt (positive : 0 < low) (rises : low < high) :
    profit? low high least =
      if u128Max < (high - low) * bpsWhole then
        refuse (.productTooLarge (.int (high - low)) (.int bpsWhole))
      else .ok ((some ((high - low) * bpsWhole / low)).filter (least ≤ ·)) := by
  rw [profit?, if_neg (Int.not_le.mpr rises),
    ConstantProduct.profitBps_eq positive (Int.le_of_lt rises)]
  split
  · rfl
  · rw [Except.ok_bind, ofInt_int, le_int, Except.ok_bind, Option.filter_some]
    split <;> rfl

/-- The failure over a spread that is too large. -/
def tooLarge (spread : Int) : Fault :=
  .failure ⟨.productTooLarge (.int spread) (.int bpsWhole), none⟩

variable (search least pair now) in
theorem judge_of_overflows (positive : Table.Each (0 < ·) prices)
    (h : kind.Overflows prices) :
    ∃ spread, search.judge prices least pair now kind = .error (tooLarge spread) := by
  obtain ⟨low, high, spread, large⟩ := h
  refine ⟨high - low, ?_⟩
  simp only [judge, spread.entry, spread.exit]
  rw [profit?_of_lt (positive _ _ spread.entry) spread.rises, if_pos large]
  rfl

variable (search least pair now) in
theorem judge_of_fits (positive : Table.Each (0 < ·) prices) (fits : ¬ kind.Overflows prices) :
    search.judge prices least pair now kind =
      .ok (((kind.gain? prices).filter (least ≤ ·)).map (search.offer least pair now kind)) := by
  unfold judge gain?
  split
  · rename_i low high entry exit
    by_cases rises : low < high
    · have small : ¬ u128Max < (high - low) * bpsWhole := fun large =>
        fits ⟨low, high, ⟨entry, exit, rises⟩, large⟩
      rw [profit?_of_lt (positive _ _ entry) rises, if_neg small, if_pos rises]
      rfl
    · rw [profit?_of_le (Int.not_lt.mp rises), if_neg rises]
      rfl
  · rfl

theorem writable_of_profit?_ok {gain : Int} (positive : 0 < low)
    (h : profit? low high least = .ok (some gain)) : Numeral.isWritable gain = true := by
  by_cases rises : low < high
  · rw [profit?_of_lt positive rises] at h
    split at h
    · cases h
    · rename_i small
      obtain ⟨same, _⟩ := Option.filter_eq_some_iff.mp (Except.ok.inj h)
      cases same
      have spread : 0 ≤ (high - low) * bpsWhole := Int.mul_nonneg (by omega) (by decide)
      have above := Int.ediv_nonneg spread (Int.le_of_lt positive)
      have below := Int.le_trans (Int.ediv_le_self low spread) (Int.not_lt.mp small)
      rw [u128Max] at below
      exact Numeral.isWritable_of_small (by omega) (by omega)
  · rw [profit?_of_le (Int.not_lt.mp rises)] at h
    cases h

theorem ends_tryKind (positive : Table.Each (0 < ·) prices) :
    Ends (Table.Each (Numeral.isWritable · = true) prices)
      (search.tryKind prices least pair now kind) (search.judge prices least pair now kind) := by
  have skipped : Ends (Table.Each (Numeral.isWritable · = true) prices)
      (do
        log .debug "ROUTE_SKIPPED_NO_QUOTE" [("route_kind", .text kind.name)]
        return (none : Option ArbitrageRoute)) (.ok none) :=
    ends_then (log_noted _ _ _ (by decide)) (ends_log fun _ => rfl) (ends_pure none)
  unfold tryKind judge
  cases entry : Table.get? kind.entryVenue prices with
  | none => exact skipped
  | some low =>
      cases exit : Table.get? kind.exitVenue prices with
      | none => exact skipped
      | some high =>
          simp only [truncated_int, ofExcept_ok, pure_bind]
          apply ends_bind (within_ofExcept _) (ends_ofExcept _)
          intro profit worth
          cases profit with
          | none => exact ends_pure none
          | some gain =>
              have made : search.route least pair now kind gain =
                  .ok (search.offer least pair now kind gain) := rfl
              simp only [made, ofExcept_ok, pure_bind]
              apply ends_then (count_noted _) (ends_count _)
              refine ends_then (log_noted _ _ _ (by decide)) (ends_log fun writable => ?_)
                (ends_pure _)
              have low := writable _ _ entry
              have high := writable _ _ exit
              have own := writable_of_profit?_ok (positive _ _ entry) worth
              simp only [Json.fieldsWritable, Json.isWritable, low, high, own, Bool.and_self]

/-- A search comes to what becomes of its kinds. -/
theorem ends_find (positive : Table.Each (0 < ·) prices) :
    Ends (Table.Each (Numeral.isWritable · = true) prices)
      (search.find prices least pair now)
      (search.kinds.filterMapM (search.judge prices least pair now)) :=
  ends_filterMapM (search.tryKind_noted prices least pair now)
    (fun _ => ends_tryKind positive) _

/-- One gain that is too large is enough to end a search. -/
theorem filterMapM_of_overflows (positive : Table.Each (0 < ·) prices)
    (h : ∃ kind ∈ search.kinds, kind.Overflows prices) :
    ∃ spread, search.kinds.filterMapM (search.judge prices least pair now) =
      .error (tooLarge spread) := by
  obtain ⟨kind, listed, overflows⟩ := h
  obtain ⟨_, failed⟩ := judge_of_overflows search least now pair positive overflows
  obtain ⟨first, _, f, fails, ends⟩ := Except.filterMapM_error listed failed
  by_cases large : first.Overflows prices
  · obtain ⟨spread, judged⟩ := judge_of_overflows search least now pair positive large
    rw [judged] at fails
    cases fails
    exact ⟨spread, ends⟩
  · rw [judge_of_fits search least now pair positive large] at fails
    cases fails

theorem filterMapM_of_fits (positive : Table.Each (0 < ·) prices)
    (fits : ¬ ∃ kind ∈ search.kinds, kind.Overflows prices) :
    search.kinds.filterMapM (search.judge prices least pair now) =
      .ok (search.selection prices least pair now) := by
  apply Except.filterMapM_ok
  intro kind listed
  apply judge_of_fits search least now pair positive
  intro overflows
  exact fits ⟨kind, listed, overflows⟩

/-- The routes of a selection pass the filter for their profit. -/
theorem profitable_selection :
    ArbitrageRoute.profitable least (search.selection prices least pair now) =
      .ok (search.selection prices least pair now) := by
  rw [ArbitrageRoute.profitable_eq, List.filter_eq_self.mpr]
  intro route member
  obtain ⟨kind, _, made⟩ := List.mem_filterMap.mp member
  obtain ⟨gain, kept, rfl⟩ := Option.map_eq_some_iff.mp made
  exact (Option.filter_eq_some_iff.mp kept).2

/-- How a search may end where it shows what is told of. -/
inductive Ending (search : RouteSearch Int) (prices : List (VenueKind × Int)) (least : Int)
    (pair : TokenPair) (now : Int) (tells : Prop) : Except Fault (List ArbitrageRoute) → Prop
  | overflows (large : ∃ kind ∈ search.kinds, kind.Overflows prices) (spread : Int) :
    Ending search prices least pair now tells (.error (tooLarge spread))
  | finds (fits : ¬ ∃ kind ∈ search.kinds, kind.Overflows prices) :
    Ending search prices least pair now tells (.ok (search.selection prices least pair now))
  | breaks (untold : ¬ tells) :
    Ending search prices least pair now tells (.error (.breakdown .tooManyDigits))

theorem find_ending (positive : Table.Each (0 < ·) prices) {tells : Prop} {w : World Int}
    (told : tells → Json.fieldsWritable w.journal.bound = true ∧
      Table.Each (Numeral.isWritable · = true) prices) :
    search.Ending prices least pair now tells ((search.find prices least pair now).result w).1 := by
  rcases ends_find positive w with same | ⟨broke, untold⟩
  · rw [same]
    by_cases large : ∃ kind ∈ search.kinds, kind.Overflows prices
    · obtain ⟨spread, fails⟩ := filterMapM_of_overflows positive large
      rw [fails]
      exact .overflows large spread
    · rw [filterMapM_of_fits positive large]
      exact .finds large
  · rw [broke]
    exact .breaks fun h => untold (told h)

/-- A search over validated prices, which are those of the last quote of each venue. It fails for
    one reason alone, a listed kind with a gain that is too large to be computed, and breaks down
    only where it has to journal a number of too many digits. Otherwise it finds, in their order and
    multiplicity, the listed kinds that gain at least the minimum, and the filter for profit keeps
    all of them. -/
theorem find_selects {quotes : List PriceQuote} {limits : PriceLimits Int}
    {stale wide : Option Int} {checked : Int} {v after : World Int}
    {usable : List (VenueKind × UsablePrice)} (unsigned : ∀ q ∈ quotes, 0 ≤ q.price)
    (validated : (PriceQuote.validateAll limits stale wide checked quotes).result v =
      (.ok usable, after))
    (search : RouteSearch Int) (least : Int) (pair : TokenPair) (now : Int) (w : World Int) :
    let prices : List (VenueKind × Int) := UsablePrice.prices usable
    let ended := ((search.find prices least pair now).result w).1
    let overflows := ∃ kind ∈ search.kinds, kind.Overflows prices
    let tells := Json.fieldsWritable w.journal.bound = true ∧
      ∀ q ∈ quotes, Numeral.isWritable q.price = true
    (∀ venue, Table.get? venue prices = (PriceQuote.lastOf venue quotes).map (·.price)) ∧
    (∀ f, ended = .error f →
      (overflows ∧ ∃ spread, f = .failure ⟨.productTooLarge (.int spread) (.int bpsWhole), none⟩) ∨
        (f = .breakdown .tooManyDigits ∧ ¬ tells)) ∧
    (tells → ((∃ e, ended = .error (.failure e) ∧ e.kind = .overflow) ↔ overflows)) ∧
    (tells → ¬ overflows → ended = .ok (search.selection prices least pair now)) ∧
    (∀ routes, ended = .ok routes → ¬ overflows ∧
      routes = search.selection prices least pair now ∧
      ArbitrageRoute.profitable least routes = .ok routes) ∧
    ∀ (kind : RouteKind) gain, (kind.gain? prices = some gain ∧ least ≤ gain) ↔
      ∃ low high, kind.Spread prices low high ∧ gain = (high - low) * bpsWhole / low ∧
        0 < low ∧ least * low ≤ (high - low) * bpsWhole := by
  intro prices ended overflows tells
  obtain ⟨filed, nonzero⟩ := PriceQuote.of_validateAll_ok validated
  have positive : Table.Each (0 < ·) prices := by
    refine UsablePrice.each_prices (P := (0 < ·)) filed fun q member => ?_
    have unsigned := unsigned q member
    have nonzero := nonzero q member
    omega
  have ends : search.Ending prices least pair now tells ended := by
    apply find_ending positive
    rintro ⟨bound, writable⟩
    exact ⟨bound, UsablePrice.each_prices filed writable⟩
  clear_value ended
  refine ⟨?_, ?_, ?_, ?_, ?_, ?_⟩
  · intro venue
    rw [UsablePrice.get?_prices, ← filed, Option.map_map]
    rfl
  · rintro f rfl
    cases ends with
    | overflows large spread => exact .inl ⟨large, spread, rfl⟩
    | breaks untold => exact .inr ⟨rfl, untold⟩
  · intro told
    cases ends with
    | overflows large spread => exact iff_of_true ⟨_, rfl, rfl⟩ large
    | finds fits => exact iff_of_false nofun fits
    | breaks untold => exact absurd told untold
  · intro told fits
    cases ends with
    | overflows large spread => exact absurd large fits
    | finds fits => rfl
    | breaks untold => exact absurd told untold
  · rintro routes rfl
    cases ends with
    | finds fits => exact ⟨fits, rfl, profitable_selection⟩
  · intro kind gain
    constructor
    · rintro ⟨gains, enough⟩
      obtain ⟨low, high, spread, rfl⟩ := of_gain? gains
      have priced : 0 < low := positive _ _ spread.entry
      exact ⟨low, high, spread, rfl, priced, (Int.le_ediv_iff_mul_le priced).mp enough⟩
    · rintro ⟨low, high, spread, rfl, priced, enough⟩
      exact ⟨spread.gain?, (Int.le_ediv_iff_mul_le priced).mpr enough⟩

/-- Quotes of two venues, of which the first is quoted again. -/
def quotedTwice : List PriceQuote :=
  [⟨.raydium, "", 100000000, 1000, 0⟩, ⟨.jupiter, "", 102000000, 1000, 0⟩,
    ⟨.raydium, "", 101000000, 1000, 0⟩]

/-- A search that lists one kind twice, and a kind of which a venue is not quoted. -/
def listedTwice : RouteSearch Int :=
  { kinds := [.raydiumJupiter, .jupiterRaydium, .serumRaydium, .raydiumJupiter]
    maxSlippageBps := 100, deadlineSeconds := 60 }

theorem quotedTwice_selected : ∃ usable after,
    (PriceQuote.validateAll ⟨100, 100⟩ none none 0 quotedTwice).result Arbitrageur.standardWorld =
      (.ok usable, after) ∧
    ((listedTwice.find (UsablePrice.prices usable) 99 ⟨"SOL", "USDC"⟩ 0).result
      Arbitrageur.standardWorld).1 =
        .ok (List.replicate 2 { ArbitrageRoute.pairRoute with
          expectedProfitBps := 99, minProfitBps := 99, maxSlippageBps := 100 }) := by
  refine ⟨_, _, rfl, ?_⟩
  have small {q : PriceQuote} (member : q ∈ quotedTwice) : 0 ≤ q.price ∧ q.price ≤ u64Max := by
    simp only [quotedTwice, List.mem_cons, List.not_mem_nil, or_false] at member
    rcases member with rfl | rfl | rfl <;> decide
  obtain ⟨_, _, _, finds, _⟩ := find_selects (fun q member => (small member).1)
    (rfl : (PriceQuote.validateAll ⟨100, 100⟩ none none 0 quotedTwice).result
      Arbitrageur.standardWorld = (.ok _, _))
    listedTwice 99 ⟨"SOL", "USDC"⟩ 0 Arbitrageur.standardWorld
  apply finds ⟨rfl, fun q member => Numeral.isWritable_of_u64 (small member).1 (small member).2⟩
  rintro ⟨kind, _, low, high, ⟨entry, exit, _⟩, large⟩
  have bounded (venue : VenueKind) {price : Int} (found : Table.get? venue
      [(.raydium, 101000000), (.jupiter, 102000000)] = some price) :
      0 < price ∧ price ≤ u64Max := by
    cases venue <;> cases found <;> decide
  have low := (bounded _ entry).1
  have high := (bounded _ exit).2
  rw [u128Max, bpsWhole] at large
  rw [u64Max] at high
  omega

/-- The least price with more digits than are written. -/
def vastPrice : Int := (10 ^ 4300 : Nat)

/-- Quotes of two venues with such prices, next to each other. -/
def vastQuotes : List PriceQuote :=
  [⟨.raydium, "", vastPrice, 1000, 0⟩, ⟨.jupiter, "", vastPrice + 1, 1000, 0⟩]

/-- The prices of these quotes, as they are validated. -/
def vastPrices : List (VenueKind × Int) := [(.raydium, vastPrice), (.jupiter, vastPrice + 1)]

/-- The quotes pass their checks, and a kind gains the minimum. No gain is too large, but the search
    breaks off where it would tell of the route. -/
theorem vastQuotes_break_off :
    ((PriceQuote.validateAll ⟨100, 100⟩ none none 0 vastQuotes).result
      ({ settings := .standard } : World Int)).1.toOption.map UsablePrice.prices =
        some vastPrices ∧
    (¬ ∃ kind ∈ listedTwice.kinds, kind.Overflows vastPrices) ∧
    RouteKind.raydiumJupiter.gain? vastPrices = some 0 ∧
    ((listedTwice.find vastPrices 0 ⟨"SOL", "USDC"⟩ 0).result { settings := .standard }).1 =
      .error (.breakdown .tooManyDigits) := by
  refine ⟨by decide +kernel, ?_, by decide +kernel, of_brokeOff (by decide +kernel)⟩
  rintro ⟨kind, _, low, high, ⟨entry, exit, _⟩, large⟩
  have bounded (venue : VenueKind) {price : Int} (found : Table.get? venue vastPrices = some price) :
      vastPrice ≤ price ∧ price ≤ vastPrice + 1 := by
    cases venue <;> cases found <;> decide +kernel
  have low := (bounded _ entry).1
  have high := (bounded _ exit).2
  rw [u128Max, bpsWhole] at large
  omega

end RouteSearch

end TradingEngine
