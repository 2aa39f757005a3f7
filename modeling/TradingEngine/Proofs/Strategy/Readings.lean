import TradingEngine.Proofs.Strategy.Telling

/-! # What a run reads

A quote is judged by its age and its confidence, a mean price is taken over the samples of a window,
and the impact of a trade is worked out from the reserves of a pool. Each of them ends in a value
that can be written, or it is refused. A refusal shows the numbers of the quote, or the window.
-/

namespace TradingEngine

open Engine Quantity

section

variable {legible : Prop} {first w : World Int}

/-! ### Quotes -/

/-- The numbers that the checks of a quote show. -/
structure PriceQuote.Legible (limits : PriceLimits Int) (s : Settings Int) (now : Int)
    (q : PriceQuote) : Prop where
  price : Numeral.isWritable q.price = true
  confidence : Numeral.isWritable q.confidence = true
  age : Numeral.isWritable (now - q.publishTime) = true
  maxStaleness : Numeral.isWritable s.maxStalenessSeconds = true
  maxConfidence : Numeral.isWritable s.maxConfidence = true
  minConfidence : Numeral.isWritable limits.minConfidence = true

namespace PriceQuote

variable {limits : PriceLimits Int} {s : Settings Int} {now : Int} {q : PriceQuote} {cause : Cause}

theorem fault?_worded (q : PriceQuote) (limits : PriceLimits Int) (stale wide now : Int) :
    Worded (q.fault? limits stale wide now) := by
  refine worded_bind (worded_ok _) fun age _ => worded_bind (worded_ok _) fun old _ => ?_
  cases old with
  | true => exact worded_ok _
  | false =>
      refine worded_bind (worded_ok _) fun low _ => ?_
      cases low with
      | true => exact worded_ok _
      | false =>
          refine worded_bind ?_ fun tooWide _ => ?_
          · unfold isWide
            split
            · exact worded_ok _
            · exact worded_bind (worded_ok _) fun _ _ => worded_ok _
          · cases tooWide with
            | true => exact worded_ok _
            | false =>
                refine worded_bind (worded_ok _) fun tight _ => ?_
                cases tight <;> exact worded_ok _

/-- What speaks against a quote shows what is legible about it only. -/
theorem Legible.shown (legible : q.Legible limits s now)
    (h : q.fault? limits s.maxStalenessSeconds s.maxConfidence now = .ok (some cause)) :
    Json.allWritable cause.shownValues = true := by
  obtain ⟨price, confidence, age, stale, wide, floor⟩ := legible
  obtain ⟨_, made, h⟩ := Except.of_bind_ok h
  cases made
  obtain ⟨old, _, h⟩ := Except.of_bind_ok h
  cases old with
  | true =>
      cases h
      simp only [Cause.shownValues, Json.allWritable, Json.isWritable, toJson_int, ofInt_int, age,
        stale, Bool.and_self]
  | false =>
      simp only [Bool.false_eq_true, if_false] at h
      obtain ⟨low, _, h⟩ := Except.of_bind_ok h
      cases low with
      | true =>
          cases h
          simp only [Cause.shownValues, Json.allWritable, Json.isWritable, toJson_int, confidence,
            wide, Bool.and_self]
      | false =>
          simp only [Bool.false_eq_true, if_false] at h
          obtain ⟨tooWide, _, h⟩ := Except.of_bind_ok h
          cases tooWide with
          | true =>
              cases h
              rfl
          | false =>
              simp only [Bool.false_eq_true, if_false] at h
              obtain ⟨tight, _, h⟩ := Except.of_bind_ok h
              cases tight with
              | true =>
                  cases h
                  simp only [Cause.shownValues, Json.allWritable, Json.isWritable, toJson_int,
                    confidence, floor, Bool.and_self]
              | false => cases h

/-- A quote is found usable, or its refusal can be told. -/
theorem validate_settles (intact : World.Intact legible first w)
    (shown : legible → q.Legible limits first.settings now) :
    Settles legible first w (q.validate limits none none now) fun usable => usable.quote = q := by
  refine settles_settings_bind ?_
  rw [intact.settings]
  refine settles_ofExcept_bind intact (telling_ok _) fun stale made => ?_
  cases made
  refine settles_ofExcept_bind intact (telling_ok _) fun wide made => ?_
  cases made
  refine settles_ofExcept_bind intact (fault?_worded _ _ _ _ _).telling fun found judged => ?_
  cases found with
  | none => exact settles_ofExcept intact (telling_ok _) fun _ made => by cases made; rfl
  | some cause =>
      have writable (read : legible) := (shown read).shown judged
      dsimp only
      split
      · rename_i b failed
        exact settles_stopped rfl intact (failed ▸ Cause.told writable)
      · refine settles_bind (settles_count intact _) fun _ between intact _ => ?_
        refine settles_ofExcept_bind intact (telling_ok _) fun age made => ?_
        cases made
        refine settles_bind (settles_log intact _ _ fun read => ?_) fun _ _ intact _ =>
          settles_fail intact writable
        obtain ⟨price, confidence, age, _⟩ := shown read
        simp only [Json.fieldsWritable, Json.isWritable, toJson_int, ofInt_int, price, confidence,
          age, Bool.and_self]

end PriceQuote

/-! ### Pools -/

/-- Whether the source of a pool can be read in a world: a copy declares tokens that can be written,
    and a pool that is read where it stands has to be there. -/
def PoolSource.Readable (w : World Int) : PoolSource Int → Prop
  | .snapshot p => p.tokenA.isWritable = true ∧ p.tokenB.isWritable = true
  | .loose _ => False
  | .live venue pool => (w.pool? venue pool).isSome

theorem PoolSource.reserves_settles (intact : World.Intact legible first w) (token : Name)
    {source : PoolSource Int} (readable : source.Readable first) :
    Settles legible first w (source.reserves token) fun p =>
      p.tokenA.isWritable = true ∧ p.tokenB.isWritable = true := by
  cases source with
  | snapshot p => exact settles_done rfl intact readable
  | loose record => exact readable.elim
  | live venue pool =>
      obtain ⟨p, held⟩ := Option.isSome_iff_exists.mp (intact.present venue pool readable)
      obtain ⟨v, here, there⟩ := World.of_pool? held
      have found : ((PoolSource.live venue pool).reserves token).result w = (.ok p, w) := by
        simp only [reserves, result_bind, result_get, here, Option.bind_some, inVenue?, there,
          Option.map_some]
        rfl
      exact settles_done found intact (intact.onPaper.tokens venue pool p held)

end

/-- The shortfall is a share of what was expected, and that is an amount of 64 bits. -/
theorem ConstantProduct.priceImpactBps_isWritable {amountIn out reserveIn reserveOut impact : Int}
    (h : priceImpactBps amountIn out reserveIn reserveOut = .ok impact) :
    Numeral.isWritable impact = true := by
  obtain ⟨_, _, h⟩ := Except.of_bind_ok h
  obtain ⟨_, paid, h⟩ := Except.of_bind_ok h
  obtain ⟨_, _, h⟩ := Except.of_bind_ok h
  obtain ⟨_, _, h⟩ := Except.of_bind_ok h
  obtain ⟨expected, fits, h⟩ := Except.of_bind_ok h
  obtain ⟨shortfall, short, h⟩ := Except.of_bind_ok h
  obtain ⟨scaled, multiplied, divided⟩ := Except.of_bind_ok h
  obtain ⟨rfl, most⟩ := Checked.of_toU64_ok fits
  obtain ⟨covered, rfl⟩ := Checked.of_difference_ok short
  have nonneg := (Checked.of_amount_ok paid).2.1
  rw [(Checked.of_quotient_ok divided).2, Checked.of_product_ok multiplied]
  refine Numeral.isWritable_of_natAbs_le (Int.natAbs_fdiv_le_natAbs _ _) ?_
  rw [u64Max] at most
  rw [ofInt_int, bpsWhole]
  exact Numeral.isWritable_of_small (by omega) (by omega)

/-! ### Snapshots -/

namespace Oracle

variable {o : Oracle Int} {feed : Text} {q : PriceQuote}

theorem quote_worded (o : Oracle Int) (feed : Text) : Worded (o.quote (.text feed)) := by
  rw [quote, Table.named?_text]
  split
  · exact worded_ok _
  · exact worded_refuse rfl
  · rename_i failed
    cases failed

theorem mem_of_quote_ok {feed : Name} (h : o.quote feed = .ok q) : q ∈ o.quotes := by
  cases feed with
  | text key =>
      rw [quote, Table.named?_text] at h
      split at h
      · rename_i found
        cases h
        have listed := Table.mem_of_get? (Except.ok.inj found)
        obtain ⟨_, member, same⟩ := List.mem_map.mp listed
        cases same
        exact List.mem_reverse.mp member
      · cases h
      · cases h
  | _ => cases h

theorem samples_worded (o : Oracle Int) (feed : Text) (window now : Int) :
    Worded (o.samples (.text feed) window now) := by
  refine worded_bind (worded_ok _) fun filed _ => worded_bind ?_ fun recent _ => worded_ok _
  exact worded_filterM (fun _ => worded_bind (worded_ok _) fun _ _ => worded_ok _) filed

end Oracle

namespace Twap

theorem accumulate_worded (period now total count : Int) (samples : List PriceQuote) :
    Worded (accumulate period now total count samples) := by
  induction samples generalizing total count with
  | nil => exact worded_ok _
  | cons sample rest ih =>
      refine worded_bind (worded_bind (worded_ok _) fun _ _ => worded_ok _) fun recent _ => ?_
      cases recent with
      | false => exact ih total count
      | true =>
          rw [if_pos rfl]
          dsimp only
          split
          · exact worded_refuse rfl
          · exact ih _ _

/-- The sum of the prices stays a signed 128-bit number. -/
theorem of_accumulate_ok {period now total count sum number : Int} {samples : List PriceQuote}
    (begins : i128Min ≤ total ∧ total ≤ i128Max)
    (h : accumulate period now total count samples = .ok (sum, number)) :
    i128Min ≤ sum ∧ sum ≤ i128Max := by
  induction samples generalizing total count with
  | nil =>
      cases h
      exact begins
  | cons sample rest ih =>
      obtain ⟨recent, _, h⟩ := Except.of_bind_ok h
      cases recent with
      | false => exact ih begins h
      | true =>
          rw [if_pos rfl] at h
          dsimp only at h
          split at h
          · cases h
          · rename_i inside
            simp only [gt_iff_lt, Bool.or_eq_true, decide_eq_true_eq, not_or, Int.not_lt] at inside
            exact ih ⟨inside.2, inside.1⟩ h

theorem mean_telling {legible : Prop} {period now : Int} (samples : List PriceQuote)
    (shown : legible → Numeral.isWritable period = true) :
    Telling legible (mean samples period now) := by
  refine telling_bind (accumulate_worded _ _ _ _ _).telling fun sums _ => ?_
  dsimp only
  split
  · refine telling_refuse fun read => ?_
    simp only [Cause.shownValues, toJson_int, Json.allWritable, Json.isWritable, shown read,
      Bool.and_self]
  · exact telling_ok _

theorem mean_isWritable {period now price : Int} {samples : List PriceQuote}
    (h : mean samples period now = .ok price) : Numeral.isWritable price = true := by
  obtain ⟨⟨sum, number⟩, summed, h⟩ := Except.of_bind_ok h
  dsimp only at h
  split at h
  · cases h
  · cases h
    obtain ⟨low, high⟩ := of_accumulate_ok (by decide) summed
    refine Numeral.isWritable_of_natAbs_le (Int.natAbs_fdiv_le_natAbs sum number) ?_
    rw [i128Min] at low
    rw [i128Max] at high
    exact Numeral.isWritable_of_small (by omega) (by omega)

end Twap

end TradingEngine
