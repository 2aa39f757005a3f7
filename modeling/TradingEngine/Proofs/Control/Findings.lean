import TradingEngine.Proofs.Control.Search
import TradingEngine.Proofs.Sendable

/-! # Findings on request

What a search finds, or the failure that ends it, can be sent to the operator if the names of the
pair and the numbers of the quotes can. Then a request for a search is answered with what a run of
the strategy comes to. Otherwise the search comes to the same, and it is the answer that may break
down.
-/

namespace TradingEngine

open Engine Quantity

namespace PriceQuote

variable {q : PriceQuote}

/-- A quote whose numbers can be sent. Its price is not negative, like every price that is read. -/
structure Sendable (q : PriceQuote) : Prop where
  nonneg : 0 ≤ q.price
  price : Numeral.isWritable q.price = true
  confidence : Numeral.isWritable q.confidence = true

/-- What speaks against a quote can be sent if it can be put into words. -/
theorem Sendable.fault?_clear (h : q.Sendable) (limits : PriceLimits Int) (stale wide now : Int) :
    Clear (fun found => ∀ cause ∈ found,
      Json.allWritable cause.shownValues = true → cause.Sendable)
      (q.fault? limits stale wide now) := by
  have price := Json.sendable_int h.price
  have confidence := Json.sendable_int h.confidence
  have worded {n : Int} (writable : Json.isWritable (.int n) = true) := Json.sendable_int writable
  refine clear_step trivial fun age => clear_step trivial fun old => ?_
  split
  · rintro _ ⟨⟩ shown
    simp only [Cause.shownValues, Json.allWritable, Bool.and_eq_true] at shown
    exact ⟨by simp [Cause.message], by simp [Cause.context, worded shown.1, worded shown.2.1]⟩
  refine clear_step trivial fun low => ?_
  split
  · rintro _ ⟨⟩ shown
    simp only [Cause.shownValues, Json.allWritable, Bool.and_eq_true] at shown
    exact ⟨by simp [Cause.message], by simp [Cause.context, confidence, worded shown.2.1]⟩
  refine clear_step ?_ fun tooWide => ?_
  · unfold isWide
    split <;> trivial
  split
  · rintro _ ⟨⟩ _
    exact ⟨rfl, by simp [Cause.context, confidence, price]⟩
  refine clear_step trivial fun tight => ?_
  split
  · rintro _ ⟨⟩ shown
    simp only [Cause.shownValues, Json.allWritable, Bool.and_eq_true] at shown
    exact ⟨by simp [Cause.message], by simp [Cause.context, confidence, worded shown.2.1]⟩
  · rintro _ ⟨⟩

theorem Sendable.validate_clears (h : q.Sendable) (limits : PriceLimits Int) (now : Int) :
    Clears (fun usable => usable.quote = q) (q.validate limits none none now) := by
  refine clears_step clears_settings fun s => clears_step (clears_ofExcept trivial) fun stale =>
    clears_step (clears_ofExcept trivial) fun wide =>
      clears_bind (clears_ofExcept (h.fault?_clear limits stale wide now)) fun found told => ?_
  cases found with
  | none => exact clears_ofExcept rfl
  | some cause =>
      dsimp only
      split
      · exact clears_step (clears_breakdown _) fun _ => clears_step (clears_count _) fun _ =>
          clears_step (clears_ofExcept trivial) fun _ => clears_step (clears_log _ _ _) fun _ =>
            clears_fail (told cause rfl)
      · exact clears_step (clears_count _) fun _ => clears_step (clears_ofExcept trivial) fun _ =>
          clears_step (clears_log _ _ _) fun _ => clears_fail (told cause rfl)

end PriceQuote

namespace RouteSearch

theorem profit?_clear {entry exit least : Int} (low : 0 ≤ entry)
    (high : Numeral.isWritable exit = true) :
    Clear (fun profit => ∀ n ∈ profit, Numeral.isWritable n = true)
      (profit? entry exit least) := by
  unfold profit?
  split
  · rintro _ ⟨⟩
  · have gain : Numeral.isWritable (exit - entry) = true :=
      Numeral.isWritable_of_natAbs_le (by omega) high
    have whole : Numeral.isWritable bpsWhole = true :=
      Numeral.isWritable_of_u64 (by decide) (by decide)
    have priced : Clear (fun n => 0 ≤ n ∧ n ≤ u128Max)
        (ConstantProduct.profitBps entry exit : Except Fault Int) := by
      refine clear_bind (P := (· = exit - entry)) ?_ fun spread same => ?_
      · simp only [Checked.difference, lt_int, Except.ok_bind, decide_eq_true_eq]
        rw [if_neg (by omega)]
        rfl
      subst same
      refine clear_bind (Checked.product_clear gain whole) fun scaled bounds => ?_
      obtain ⟨rfl, small⟩ := bounds
      exact Checked.quotient_clear (Int.mul_nonneg (by omega) (by decide)) small low
    refine clear_bind priced fun expected bounds => clear_step trivial fun worth => ?_
    obtain ⟨nonneg, small⟩ := bounds
    split
    · rintro _ ⟨⟩
      exact Numeral.isWritable_of_u128 nonneg small
    · rintro _ ⟨⟩

end RouteSearch

/-- A route that can be sent. -/
theorem ArbitrageRoute.sendable {route : ArbitrageRoute} (base : route.pair.base.isWhole = true)
    (quote : route.pair.quote.isWhole = true)
    (profit : Numeral.isWritable route.expectedProfitBps = true)
    (least : Numeral.isWritable route.minProfitBps = true)
    (slippage : Numeral.isWritable route.maxSlippageBps = true)
    (deadline : Numeral.isWritable route.deadline = true) : route.toJson.Sendable := by
  have pair : route.pair.toJson.Sendable := by
    refine Json.sendable_record ?_
    simp [Json.sendable_text, base, quote]
  refine Json.sendable_record ?_
  simp [Json.sendable_text, Json.sendable_int, pair, profit, least, slippage, deadline]

namespace ScanRequest

variable {r : ScanRequest} {s : Settings Int} {now : Int}

/-- A request of which everything that is found can be sent: the names of its pair hold nothing but
    characters, and no number that may be told of has too many digits. -/
structure Sendable (s : Settings Int) (now : Int) (r : ScanRequest) : Prop where
  base : r.pair.base.isWhole = true
  quote : r.pair.quote.isWhole = true
  slippage : Numeral.isWritable s.routeMaxSlippageBps = true
  deadline : Numeral.isWritable (now + s.routeDeadlineSeconds) = true
  quotes : ∀ q ∈ r.quotes, q.Sendable

theorem Sendable.tryKind_clears (h : r.Sendable s now)
    (least : Numeral.isWritable r.minProfitBps = true) {prices : List (VenueKind × Int)}
    (priced : ∀ row ∈ prices, 0 ≤ row.2 ∧ Numeral.isWritable row.2 = true) (kind : RouteKind) :
    Clears (fun found => ∀ route ∈ found, route.toJson.Sendable)
      (RouteSearch.tryKind ⟨r.routeKinds, s.routeMaxSlippageBps, s.routeDeadlineSeconds⟩ prices
        r.minProfitBps r.pair now kind) := by
  unfold RouteSearch.tryKind
  split
  · rename_i entry exit atEntry atExit
    have low := (priced _ (Table.mem_of_get? atEntry)).1
    have high := (priced _ (Table.mem_of_get? atExit)).2
    refine clears_bind (P := (· = entry)) (clears_ofExcept rfl) fun _ same => ?_
    subst same
    refine clears_bind (P := (· = exit)) (clears_ofExcept rfl) fun _ same => ?_
    subst same
    refine clears_bind (clears_ofExcept (RouteSearch.profit?_clear low high)) fun profit gain => ?_
    cases profit with
    | none => exact clears_pure nofun
    | some expected =>
        refine clears_bind (P := fun route => route.toJson.Sendable) (clears_ofExcept ?_)
          fun route good => ?_
        · exact ArbitrageRoute.sendable h.base h.quote (gain expected rfl) least h.slippage
            h.deadline
        · refine clears_step (clears_count _) fun _ => clears_step (clears_log _ _ _) fun _ =>
            clears_pure ?_
          rintro _ ⟨⟩
          exact good
  · exact clears_step (clears_log _ _ _) fun _ => clears_pure nofun

theorem Sendable.search_clears (h : r.Sendable s now)
    (least : Numeral.isWritable r.minProfitBps = true) :
    Clears (fun routes => ∀ route ∈ routes, route.toJson.Sendable) (r.search s now) := by
  have usable : Clears (fun prices => ∀ row ∈ prices, row.2.quote ∈ r.quotes) (r.usable s now) :=
    clears_mapM fun q member =>
      clears_bind ((h.quotes q member).validate_clears _ _) fun usable same =>
        clears_pure (same ▸ member)
  refine clears_bind usable fun prices known => ?_
  have priced : ∀ row ∈ (UsablePrice.prices prices : List (VenueKind × Int)),
      0 ≤ row.2 ∧ Numeral.isWritable row.2 = true := by
    intro row member
    obtain ⟨⟨venue, price⟩, among, rfl⟩ := List.mem_map.mp member
    have sendable := h.quotes _ (known _ among)
    exact ⟨sendable.nonneg, sendable.price⟩
  refine clears_bind (clears_filterMapM fun kind _ => h.tryKind_clears least priced kind)
    fun found good => clears_ofExcept ?_
  rw [ArbitrageRoute.profitable_eq]
  exact fun route member => good route (List.mem_filter.mp member).1

/-- What the operator is told of a search can be sent if whatever is found can. -/
theorem sent_told {ended : Except Fault (List ArbitrageRoute)}
    (clear : Clear (fun routes => ∀ route ∈ routes, route.toJson.Sendable) ended) :
    told ended >>= Control.sent = told ended := by
  have passes {v : Json} (sendable : v.Sendable) (status : Nat) :
      Control.sent ⟨status, .value v, none⟩ = .ok ⟨status, .value v, none⟩ := by
    rw [Control.sent]
    dsimp only
    rw [sendable.checkSent]
    rfl
  cases ended with
  | ok routes =>
      refine passes (Json.sendable_record ?_) 200
      simpa using Json.sendable_list (List.forall_mem_map.mpr clear)
  | error f =>
      cases f with
      | refused record problems => rfl
      | breakdown b => rfl
      | failure e =>
          refine passes (Json.sendable_record ?_) 422
          simpa using (show (Json.record e.report).Sendable from clear)

/-- A search is rejected with the code of the failure that has ended it. -/
theorem told_rejection_iff {ended : Except Fault (List ArbitrageRoute)} {code : String} :
    (∃ detail, told ended = .ok (rejection detail) ∧
      Json.lookup "code" detail = some (.text code)) ↔
    ∃ f, ended = .error (.failure f) ∧ f.code = code := by
  constructor
  · rintro ⟨detail, rejected, named⟩
    cases ended with
    | ok routes => cases rejected
    | error f =>
        cases f with
        | refused record problems => cases rejected
        | breakdown b => cases rejected
        | failure e =>
            cases rejected
            rw [e.code_report, Option.some.injEq, Json.text.injEq, Text.ofString_inj] at named
            exact ⟨e, rfl, named⟩
  · rintro ⟨f, rfl, rfl⟩
    exact ⟨f.report, rfl, f.code_report⟩

/-- While trading is not halted, quotes of different venues and feeds are searched for routes with
    one result, whether they come with a request or from the oracle of a strategy. The routes of the
    request are those of the run, it is rejected exactly if the run fails and with the same code,
    and any other fault is common to both. The answer to a request from the operator says so unless
    it cannot be sent. -/
theorem scan_agrees_with_run {r : ScanRequest} {ctx : Context Int} {w other : World Int}
    (running : w.halt = none) (alike : w.Journalled other)
    (bound : Json.fieldsWritable w.journal.bound = true)
    (countable : Numeral.isWritable r.routeKinds.length = true)
    (least : 0 ≤ r.minProfitBps ∧ r.minProfitBps ≤ bpsWhole)
    (time : r.now = some ctx.now ∨ r.now = none ∧ w.clock = .ok ctx.now)
    (snapshot : ctx.oracle.quotes = r.quotes) (venues : (r.quotes.map (·.venue)).Nodup)
    (feeds : (r.quotes.map (·.feed)).Nodup) (amount : Int) :
    let run := ((r.dryRun amount ctx).result other).1.map (·.routes)
    let scan := ((Control.scanRoutes r).result w).1
    scan = told run ∧
    (∀ code : String, (∃ detail, scan = .ok (rejection detail) ∧
      Json.lookup "code" detail = some (.text code)) ↔
        ∃ f, run = .error (.failure f) ∧ f.code = code) ∧
    ∀ q, Control.Asks w.settings r q →
      ((Control.handle q).result w).1 = scan >>= Control.sent ∧
      (r.Sendable w.settings ctx.now → ((Control.handle q).result w).1 = scan) := by
  intro run scan
  have writable : Numeral.isWritable r.minProfitBps = true :=
    Numeral.isWritable_of_u64 least.1 (Int.le_trans least.2 (by decide))
  have clock : (orClock r.now).result w = (.ok ctx.now, w) := by
    rcases time with given | ⟨absent, clock⟩
    · rw [given]
      rfl
    · rw [absent, orClock, result_bind, result_get]
      dsimp only
      rw [clock]
      rfl
  have searched : run = ((r.search w.settings ctx.now).result w).1 :=
    dryRun_same alike running bound writable snapshot venues feeds amount
  have same : scan = told run :=
    (result_scanRoutes clock bound countable venues).trans (by rw [searched])
  refine ⟨same, ?_, fun q asked => ?_⟩
  · rw [same]
    exact fun code => told_rejection_iff
  · have answered := Control.result_handle_scan asked
    refine ⟨answered, fun sendable => answered.trans ?_⟩
    have clear := sendable.search_clears writable w
    rw [← searched] at clear
    change scan >>= Control.sent = scan
    rw [same]
    exact sent_told clear

/-- Prices of two venues between which it pays to trade. -/
def pairQuotes : List PriceQuote :=
  [⟨.raydium, "", 100000000, 1000, 0⟩, ⟨.jupiter, "", 102000000, 1000, 0⟩]

/-- A request to search them for routes of a pair with this base token. -/
def pairScan (base : Text) : ScanRequest :=
  { pair := ⟨base, "USDC"⟩, quotes := pairQuotes, minProfitBps := 50
    routeKinds := RouteKind.defaultCycle, now := some 0 }

/-- The run of a strategy that finds them in its oracle. -/
def pairContext : Context Int :=
  { Arbitrageur.pricedContext with oracle := { now := 0, quotes := pairQuotes } }

/-- The same request from an operator with the token, its base token spelled as in JSON. -/
def pairRequest (spelled : String) : ControlRequest :=
  { method := "POST", path := "/routes/scan"
    headers := [("content-type", "application/json"), ("authorization", "Bearer key")]
    body := String.join [
      "\x7b\"pair\": \x7b\"base\": \"", spelled, "\", \"quote\": \"USDC\"\x7d, ",
      "\"min_profit_bps\": 50, \"now\": 0, \"quotes\": [",
      "\x7b\"venue\": \"raydium\", \"price\": 100000000, ",
      "\"confidence\": 1000, \"publish_time\": 0\x7d, ",
      "\x7b\"venue\": \"jupiter\", \"price\": 102000000, ",
      "\"confidence\": 1000, \"publish_time\": 0\x7d]\x7d"] }

/-- An engine that is not halted, with an operator. -/
def pairDesk : World Int := Delivery.steeredWorld (.text "key")

/-- Whether the body of a request is read as this request to search. -/
def isReadIn (r : ScanRequest) (q : ControlRequest) : Bool :=
  match Control.readBody (decode .request) q.content with
  | .value found => found = r
  | _ => false

theorem of_isReadIn {q : ControlRequest} {r : ScanRequest} (h : r.isReadIn q = true) :
    Control.readBody (decode .request) q.content = .value r := by
  unfold isReadIn at h
  split at h
  · rename_i found read
    rw [read, of_decide_eq_true h]
  · cases h

theorem pairScan_agrees :
    ((Control.handle (pairRequest "SOL")).result pairDesk).1 =
      told (.ok [Arbitrageur.standardRoute]) := by
  have small {n : Int} (low : 0 ≤ n) (high : n ≤ u64Max) : Numeral.isWritable n = true :=
    Numeral.isWritable_of_u64 low high
  have asked : Control.Asks pairDesk.settings (pairScan "SOL") (pairRequest "SOL") :=
    ⟨rfl, rfl, by decide +kernel, of_isReadIn (by decide +kernel)⟩
  have sendable : (pairScan "SOL").Sendable pairDesk.settings 0 :=
    { base := rfl
      quote := rfl
      slippage := small (by decide) (by decide)
      deadline := small (by decide) (by decide)
      quotes := List.forall_mem_cons.mpr
        ⟨⟨by decide, small (by decide) (by decide), small (by decide) (by decide)⟩,
          List.forall_mem_singleton.mpr
            ⟨by decide, small (by decide) (by decide), small (by decide) (by decide)⟩⟩ }
  have snapshot : pairContext.oracle.quotes = (pairScan "SOL").quotes := rfl
  obtain ⟨same, _, answered⟩ := scan_agrees_with_run (w := pairDesk) rfl (Frame.refl pairDesk) rfl
    (small (by decide) (by decide)) (by decide) (.inl rfl) snapshot (by decide) (by decide) 10000
  rw [(answered _ asked).2 sendable, same]
  rfl

/-- A token whose name ends in a half of a surrogate pair. -/
def raggedToken : Text := ⟨[.char 'A', .half ⟨0, by decide⟩]⟩

/-- The route of such a token. -/
def raggedRoute : ArbitrageRoute :=
  { Arbitrageur.standardRoute with pair := ⟨raggedToken, "USDC"⟩ }

/-- The name of a token keeps no run from finding a route, but with a half of a surrogate pair in it
    the answer to the same request cannot be sent. -/
theorem ragged_scan_unanswered :
    pairDesk.halt = none ∧ (pairQuotes.map (·.venue)).Nodup ∧ (pairQuotes.map (·.feed)).Nodup ∧
      (((pairScan raggedToken).dryRun 10000 pairContext).result pairDesk).1.map (·.routes) =
        .ok [raggedRoute] ∧
      Control.Asks pairDesk.settings (pairScan raggedToken) (pairRequest "A\\ud800") ∧
      ((Control.handle (pairRequest "A\\ud800")).result pairDesk).1 =
        .error (.breakdown .notEncodable) := by
  have asked : Control.Asks pairDesk.settings (pairScan raggedToken) (pairRequest "A\\ud800") :=
    ⟨rfl, rfl, by decide +kernel, of_isReadIn (by decide +kernel)⟩
  have found : (((pairScan raggedToken).search pairDesk.settings 0).result pairDesk).1 =
      .ok [raggedRoute] := rfl
  have refused : (Json.record
      [("routes", .list ([raggedRoute].map ArbitrageRoute.toJson))]).checkSent =
        .error .notEncodable := by
    decide +kernel
  refine ⟨rfl, by decide, by decide, rfl, asked, ?_⟩
  rw [Control.result_handle_scan asked, result_scanRoutes rfl rfl
    (Numeral.isWritable_of_u64 (by decide) (by decide)) (by decide), found, told, Except.ok_bind,
    Control.sent, Control.answer]
  dsimp only
  rw [refused]
  rfl

end ScanRequest

end TradingEngine
