import Mathlib.Algebra.Order.Field.Basic
import Mathlib.Algebra.Order.Ring.Rat
import TradingEngine.Proofs.Strategy.Readings
import TradingEngine.Proofs.Strategy.Selection

/-! # Which quotes are acceptable

A list of quotes passes if every one of them is fresh, certain enough, not too uncertain for its
price and not too certain to be believed. Otherwise the first one that is not acceptable is refused,
with the first of its faults, and the refusal is counted once. Passing leaves no trace at all. A
refusal is told with the numbers of the quote, and breaks off if one of them has too many digits.
-/

namespace TradingEngine

open Engine Quantity

namespace Journal

variable {level : Level} {event : Text} {fields : Fields} {j after : Journal}

/-- An entry is no tally. -/
theorem tallies_write (h : j.write level event fields = .ok after) : after.tallies = j.tallies := by
  simp only [write, note, add] at h
  split at h
  · cases h
  · cases h
    rfl

end Journal

namespace PriceQuote

/-- The price is not zero, and the confidence is at most so many basis points of it. -/
def Narrow (limits : PriceLimits Int) (q : PriceQuote) : Prop :=
  0 < q.price ∧ (q.confidence : ℚ) / q.price ≤ (limits.maxRelativeConfidenceBps : ℚ) / 10000

/-- A quote that may be used. -/
structure Acceptable (limits : PriceLimits Int) (oldest widest now : Int) (q : PriceQuote) :
    Prop where
  fresh : now - q.publishTime ≤ oldest
  certain : q.confidence ≤ widest
  narrow : q.Narrow limits
  credible : limits.minConfidence ≤ q.confidence

/-- The first thing that speaks against a quote. -/
inductive FailsFirst (limits : PriceLimits Int) (oldest widest now : Int) (q : PriceQuote) :
    Cause → Prop
  | stale : oldest < now - q.publishTime →
      FailsFirst limits oldest widest now q
        (.stalePrice (.int (now - q.publishTime)) (.int oldest))
  | uncertain : now - q.publishTime ≤ oldest → widest < q.confidence →
      FailsFirst limits oldest widest now q (.lowConfidence q.confidence (.int widest))
  | wide : now - q.publishTime ≤ oldest → q.confidence ≤ widest → ¬ q.Narrow limits →
      FailsFirst limits oldest widest now q (.wideConfidence q.confidence q.price)
  | tight : now - q.publishTime ≤ oldest → q.confidence ≤ widest → q.Narrow limits →
      q.confidence < limits.minConfidence →
      FailsFirst limits oldest widest now q
        (.tightConfidence q.confidence (.int limits.minConfidence))

/-- How a refusal for this cause ends, and what is counted. It is told with the cause and counted
    under its kind, or it breaks off before or after it is counted. -/
inductive Refused (legible : Prop) (cause : Cause) (w after : World Int) : Fault → Prop
  | told : after.journal.tallies = w.journal.tallies.push (.quotesRejected cause.kind) →
      Refused legible cause w after (.failure ⟨cause, none⟩)
  | untold : ¬ legible → (after.journal.tallies = w.journal.tallies ∨
        after.journal.tallies = w.journal.tallies.push (.quotesRejected cause.kind)) →
      Refused legible cause w after (.breakdown .tooManyDigits)

/-- Whether the refusal of a quote can be told, with these limits of its age and its confidence. -/
def Tellable (limits : PriceLimits Int) (oldest widest now : Int) (w : World Int)
    (q : PriceQuote) : Prop :=
  Json.fieldsWritable w.journal.bound = true ∧
    q.Legible limits { w.settings with maxStalenessSeconds := oldest, maxConfidence := widest } now

/-- The limits of age and confidence that hold in a world: of those that are left out, the ones of
    the settings. -/
structure InForce (w : World Int) (stale wide : Option Int) (oldest widest : Int) : Prop where
  age : stale.getD w.settings.maxStalenessSeconds = oldest
  confidence : wide.getD w.settings.maxConfidence = widest

variable {limits : PriceLimits Int} {oldest widest now : Int} {stale wide : Option Int}
  {q : PriceQuote} {quotes : List PriceQuote} {cause : Cause} {w : World Int}

/-! ### One quote -/

instance : Decidable (q.Narrow limits) := inferInstanceAs (Decidable (_ ∧ _))

/-- The bound on the confidence in whole numbers. -/
theorem narrow_iff (priced : 0 < q.price) :
    q.Narrow limits ↔ q.confidence * bpsWhole ≤ q.price * limits.maxRelativeConfidenceBps := by
  have price : (0 : ℚ) < q.price := Int.cast_pos.mpr priced
  rw [Narrow, and_iff_right priced, div_le_div_iff₀ price (by decide),
    mul_comm (limits.maxRelativeConfidenceBps : ℚ)]
  exact_mod_cast Iff.rfl

/-- A confidence that is too wide is one that is not narrow. -/
theorem isWide_eq (unsigned : 0 ≤ q.price) : q.isWide limits = .ok !decide (q.Narrow limits) := by
  rw [isWide]
  split
  · rename_i zero
    have wide : ¬ q.Narrow limits := fun narrow => Int.ne_of_gt narrow.1 zero
    rw [decide_eq_false wide]
    rfl
  · rename_i nonzero
    have bound : q.Narrow limits ↔ _ := narrow_iff (lt_of_le_of_ne unsigned (Ne.symm nonzero))
    simp only [ofInt_int, mul_int, lt_int, Except.ok_bind, Int.natAbs_of_nonneg unsigned, bound,
      ← Int.not_le, decide_not]

/-- The checks find the first thing that speaks against a quote, if there is one. -/
theorem fault?_finds (unsigned : 0 ≤ q.price) :
    (q.fault? limits oldest widest now = .ok none ∧ q.Acceptable limits oldest widest now) ∨
      ∃ cause, q.fault? limits oldest widest now = .ok (some cause) ∧
        q.FailsFirst limits oldest widest now cause := by
  simp only [fault?, age, sub_int, ofInt_int, lt_int, Except.ok_bind, isWide_eq unsigned,
    toJson_int, decide_eq_true_eq]
  by_cases stale : oldest < now - q.publishTime
  · rw [if_pos stale]
    exact .inr ⟨_, rfl, .stale stale⟩
  rw [if_neg stale]
  have fresh := Int.not_lt.mp stale
  by_cases uncertain : widest < q.confidence
  · rw [if_pos uncertain]
    exact .inr ⟨_, rfl, .uncertain fresh uncertain⟩
  rw [if_neg uncertain]
  have certain := Int.not_lt.mp uncertain
  by_cases narrow : q.Narrow limits
  swap
  · simp only [narrow, decide_false, Bool.not_false, if_true]
    exact .inr ⟨_, rfl, .wide fresh certain narrow⟩
  simp only [narrow, decide_true, Bool.not_true, Bool.false_eq_true, if_false]
  by_cases tight : q.confidence < limits.minConfidence
  · rw [if_pos tight]
    exact .inr ⟨_, rfl, .tight fresh certain narrow tight⟩
  · rw [if_neg tight]
    exact .inl ⟨rfl, fresh, certain, narrow, Int.not_lt.mp tight⟩

instance : Decidable (q.Acceptable limits oldest widest now) :=
  decidable_of_iff (now - q.publishTime ≤ oldest ∧ q.confidence ≤ widest ∧ q.Narrow limits ∧
    limits.minConfidence ≤ q.confidence)
    ⟨fun ⟨fresh, certain, narrow, credible⟩ => ⟨fresh, certain, narrow, credible⟩,
      fun ⟨fresh, certain, narrow, credible⟩ => ⟨fresh, certain, narrow, credible⟩⟩

/-- Nothing speaks against an acceptable quote. -/
theorem Acceptable.not_failsFirst (ok : q.Acceptable limits oldest widest now) :
    ¬ q.FailsFirst limits oldest widest now cause := by
  rintro (old | ⟨_, uncertain⟩ | ⟨_, _, wide⟩ | ⟨_, _, _, tight⟩)
  · exact absurd ok.fresh (Int.not_le.mpr old)
  · exact absurd ok.certain (Int.not_le.mpr uncertain)
  · exact wide ok.narrow
  · exact absurd ok.credible (Int.not_le.mpr tight)

/-- A quote against which nothing speaks is passed without a trace. -/
theorem validate_passes (force : InForce w stale wide oldest widest)
    (clear : q.fault? limits oldest widest now = .ok none) :
    (q.validate limits stale wide now).result w = (.ok ⟨q, now⟩, w) := by
  simp only [validate, result_bind, result_settings, result_ofExcept, orHeld_int, force.age,
    force.confidence, clear, UsablePrice.ofQuantity_int]

/-- What is journalled of a refused quote. -/
def refusal (q : PriceQuote) (cause : Cause) (now : Int) : Fields :=
  [("venue", .text q.venue.name), ("feed_id", .text q.feedId), ("code", .text cause.kind.code),
    ("price", .int q.price), ("confidence", .int q.confidence), ("age", .int (now - q.publishTime))]

theorem Tellable.refusal (tells : q.Tellable limits oldest widest now w) (cause : Cause) :
    Json.fieldsWritable (q.refusal cause now) = true := by
  obtain ⟨price, confidence, age, _⟩ := tells.2
  simp only [PriceQuote.refusal, Json.fieldsWritable, Json.isWritable, price, confidence, age,
    Bool.and_self]

/-- A quote against which something speaks is refused for it. -/
theorem validate_refuses (force : InForce w stale wide oldest widest)
    (found : q.fault? limits oldest widest now = .ok (some cause)) :
    ∃ f after, (q.validate limits stale wide now).result w = (.error f, after) ∧
      Refused (q.Tellable limits oldest widest now w) cause w after f := by
  simp only [validate, result_bind, result_settings, result_ofExcept, orHeld_int, force.age,
    force.confidence, found]
  by_cases writable : Json.allWritable cause.shownValues = true
  · simp only [Cause.fault_eq writable, result_bind, result_count, result_ofExcept, age, sub_int,
      ofInt_int, toJson_int, result_log]
    cases written : (w.journal.count (.quotesRejected cause.kind)).write .warning "QUOTE_REJECTED"
        (q.refusal cause now) with
    | ok journal =>
        rw [refusal] at written
        simp only [written, result_fail, Cause.fault_eq writable]
        exact ⟨_, _, rfl, .told (Journal.tallies_write written)⟩
    | error b =>
        cases Journal.of_write_error written
        have untold (tells : q.Tellable limits oldest widest now w) : False :=
          Journal.unwritable_of_write_error written ⟨tells.1, tells.refusal cause⟩
        rw [refusal] at written
        simp only [written]
        exact ⟨_, _, rfl, .untold untold (.inr rfl)⟩
  · -- A cause that cannot be put into words breaks off before anything is counted.
    have broken : cause.fault = .breakdown .tooManyDigits := if_neg writable
    simp only [broken, result_bind, result_fault]
    exact ⟨_, _, rfl, .untold (fun tells => writable (tells.2.shown found)) (.inl rfl)⟩

/-! ### A list of quotes -/

/-- Acceptable quotes are filed under their venues, in a table that may hold earlier ones. -/
theorem filed_passes (force : InForce w stale wide oldest widest)
    (unsigned : ∀ q ∈ quotes, 0 ≤ q.price)
    (each : ∀ q ∈ quotes, q.Acceptable limits oldest widest now)
    (table : List (VenueKind × UsablePrice)) :
    ∃ usable, (quotes.foldlM (fun prices (q : PriceQuote) => do
        let price ← q.validate limits stale wide now
        return Table.put q.venue price prices) table).result w = (.ok usable, w) ∧
      ∀ venue, Table.get? venue usable =
        ((lastOf venue quotes).map (⟨·, now⟩)).or (Table.get? venue table) := by
  induction quotes generalizing table with
  | nil => exact ⟨table, rfl, fun _ => rfl⟩
  | cons q quotes ih =>
      obtain ⟨here, later⟩ := List.forall_mem_cons.mp each
      obtain ⟨nonneg, others⟩ := List.forall_mem_cons.mp unsigned
      have clear := (fault?_finds nonneg).resolve_right fun ⟨_, _, fails⟩ =>
        here.not_failsFirst fails
      -- Nothing was journalled, so the rest is checked in the very same world.
      obtain ⟨usable, passed, filed⟩ := ih others later (Table.put q.venue ⟨q, now⟩ table)
      refine ⟨usable, ?_, fun venue => ?_⟩
      · rw [List.foldlM_cons, result_bind, result_bind, validate_passes force clear.1]
        exact passed
      · rw [filed, lastOf_cons, Table.get?_put]
        by_cases same : q.venue = venue
        · cases lastOf venue quotes <;> simp [same]
        · simp [same]

/-- Behind acceptable quotes, the first one that is not acceptable is refused. -/
theorem validateAll_refuses (force : InForce w stale wide oldest widest)
    {before rest : List PriceQuote} (split : quotes = before ++ q :: rest)
    (unsigned : ∀ q ∈ quotes, 0 ≤ q.price)
    (each : ∀ q ∈ before, q.Acceptable limits oldest widest now)
    (bad : ¬ q.Acceptable limits oldest widest now) :
    ∃ cause f after, q.FailsFirst limits oldest widest now cause ∧
      (validateAll limits stale wide now quotes).result w = (.error f, after) ∧
      Refused (q.Tellable limits oldest widest now w) cause w after f := by
  subst split
  obtain ⟨cause, found, fails⟩ :=
    (fault?_finds (unsigned q (by simp))).resolve_left fun clear => bad clear.2
  obtain ⟨f, after, refused, ends⟩ := validate_refuses force found
  obtain ⟨usable, passed, _⟩ := filed_passes force
    (fun p member => unsigned p (List.mem_append_left _ member)) each []
  refine ⟨cause, f, after, fails, ?_, ends⟩
  rw [validateAll, List.foldlM_append, result_bind, passed]
  dsimp only
  rw [List.foldlM_cons, result_bind, result_bind, refused]

/-- A list of quotes passes exactly if every quote in it is acceptable, and then the last one of
    each venue counts for it. Otherwise the first one that is not acceptable is refused for the
    first thing that speaks against it. -/
theorem validateAll_decides (limits : PriceLimits Int) (stale wide : Option Int) (now : Int)
    (quotes : List PriceQuote) (w : World Int) (unsigned : ∀ q ∈ quotes, 0 ≤ q.price) :
    let oldest := stale.getD w.settings.maxStalenessSeconds
    let widest := wide.getD w.settings.maxConfidence
    let result := (validateAll limits stale wide now quotes).result w
    ((∃ usable after, result = (.ok usable, after)) ↔
      ∀ q ∈ quotes, q.Acceptable limits oldest widest now) ∧
    (∀ usable after, result = (.ok usable, after) → after = w ∧
      ∀ venue, Table.get? venue usable = (lastOf venue quotes).map (⟨·, now⟩)) ∧
    ∀ before q rest, quotes = before ++ q :: rest →
      (∀ p ∈ before, p.Acceptable limits oldest widest now) →
      ¬ q.Acceptable limits oldest widest now →
      ∃ cause f after, q.FailsFirst limits oldest widest now cause ∧ result = (.error f, after) ∧
        Refused (q.Tellable limits oldest widest now w) cause w after f := by
  intro oldest widest result
  have force : InForce w stale wide oldest widest := ⟨rfl, rfl⟩
  have accepts (returned : ∃ usable after, result = (.ok usable, after)) :
      ∀ q ∈ quotes, q.Acceptable limits oldest widest now := by
    cases found : quotes.find? fun q => ¬ q.Acceptable limits oldest widest now with
    | none => simpa using List.find?_eq_none.mp found
    | some q =>
        obtain ⟨bad, before, rest, split, each⟩ := List.find?_eq_some_iff_append.mp found
        obtain ⟨_, f, after, _, refused, _⟩ := validateAll_refuses force split
          unsigned (by simpa using each) (by simpa using bad)
        obtain ⟨usable, _, returned⟩ := returned
        cases returned.symm.trans refused
  refine ⟨⟨accepts, fun each => ?_⟩, fun usable after returned => ?_,
    fun before q rest split each bad => validateAll_refuses force split unsigned each bad⟩
  · obtain ⟨usable, passed, _⟩ := filed_passes force unsigned each []
    exact ⟨usable, w, passed⟩
  · obtain ⟨_, passed, filed⟩ := filed_passes force unsigned (accepts ⟨usable, after, returned⟩) []
    cases returned.symm.trans passed
    exact ⟨rfl, fun venue => (filed venue).trans (Option.or_none)⟩

/-- The limits that the standard settings give. -/
def standardLimits : PriceLimits Int := ⟨100, 100⟩

/-- Two acceptable quotes of one venue, a quote that is too uncertain and has no price, and an old
    one. -/
def mixedQuotes : List PriceQuote :=
  [⟨.raydium, "SOL", 100000000, 1000000, 990⟩, ⟨.raydium, "SOL", 200000000, 100, 940⟩,
    ⟨.jupiter, "SOL", 0, 2000000, 1000⟩, ⟨.serum, "SOL", 100000000, 1000, 0⟩]

/-- The third quote is refused for its confidence, before its price and the age of the last one are
    looked at. -/
theorem mixedQuotes_decided :
    (∃ usable after, (validateAll standardLimits none none 1000 (mixedQuotes.take 2)).result
        { settings := .standard } = (.ok usable, after) ∧
      Table.get? .raydium usable = some ⟨⟨.raydium, "SOL", 200000000, 100, 940⟩, 1000⟩) ∧
    ∃ after, (validateAll standardLimits none none 1000 mixedQuotes).result
        { settings := .standard } =
          (.error (.failure ⟨.lowConfidence 2000000 (.int 1000000), none⟩), after) ∧
      after.journal.tallies = #[.quotesRejected .lowConfidence] := by
  have small {n : Int} (bounds : -1000000000 ≤ n ∧ n ≤ 1000000000) :
      Numeral.isWritable n = true := Numeral.isWritable_of_small (by omega) (by omega)
  obtain ⟨passes, filed, -⟩ := validateAll_decides standardLimits none none 1000
    (mixedQuotes.take 2) { settings := .standard } (by decide)
  obtain ⟨-, -, refuses⟩ := validateAll_decides standardLimits none none 1000
    mixedQuotes { settings := .standard } (by decide)
  constructor
  · obtain ⟨usable, after, returned⟩ := passes.mpr (by decide +kernel)
    exact ⟨usable, after, returned, (filed usable after returned).2 .raydium⟩
  · obtain ⟨cause, f, after, fails, ended, refused⟩ :=
      refuses (mixedQuotes.take 2) _ _ rfl (by decide +kernel) (by decide +kernel)
    rcases fails with old | ⟨_, uncertain⟩ | ⟨_, certain⟩ | ⟨_, certain⟩
    · exact absurd old (by decide)
    · cases refused with
      | told counted => exact ⟨after, ended, counted⟩
      | untold silent =>
          exact absurd ⟨rfl, small (by decide), small (by decide), small (by decide),
            small (by decide), small (by decide), small (by decide)⟩ silent
    · exact absurd certain (by decide)
    · exact absurd certain (by decide)

/-- A quote of the far future that is too uncertain. -/
def remoteQuote : PriceQuote := ⟨.raydium, "SOL", 100000000, 2000000, (9 * 10 ^ 4299 : Nat)⟩

/-- In the far past its age has too many digits, with which its refusal would be told. -/
theorem remoteQuote_untold :
    remoteQuote.FailsFirst standardLimits 60 1000000 (-((9 * 10 ^ 4299 : Nat) : Int))
        (.lowConfidence 2000000 (.int 1000000)) ∧
      ((validateAll standardLimits none none (-((9 * 10 ^ 4299 : Nat) : Int))
        [remoteQuote]).result { settings := .standard }).1 =
          .error (.breakdown .tooManyDigits) := by
  refine ⟨.uncertain (by decide +kernel) (by decide +kernel), of_brokeOff ?_⟩
  decide +kernel

end PriceQuote

end TradingEngine
