import Mathlib.Algebra.Order.BigOperators.Group.List
import Mathlib.Algebra.Order.Ring.Int
import Mathlib.Data.List.MinMax
import TradingEngine.Proofs.Operation
import TradingEngine.Proofs.Strategy.Readings
import TradingEngine.Proofs.Venue.SwapContract

/-! # The mean price of a window

The samples of a feed are filed, cut to a window, put in order of time and summed up, and the window
is looked at once more while they are. All of this comes down to one filter of what the oracle was
given: the sum and the number of the samples that are left decide how the mean ends, and neither
depends on any order. Only a sum that is too large tells something of the order: how many samples
were added until it was.
-/

namespace TradingEngine

open Quantity

/-- The samples of a feed that were published in the window of the last `period` seconds. -/
def Oracle.window (o : Oracle Int) (feed : Text) (period now : Int) : List PriceQuote :=
  (o.quotes ++ o.history).filter fun q => decide (now - q.publishTime ≤ period) && q.feed == feed

/-- The mean price of the samples of a feed in a window, as a price trigger takes it. -/
def Oracle.meanPrice (o : Oracle Int) (feed : Text) (period now : Int) : Except Fault Int := do
  Twap.mean (← o.samples (.text feed) period now) period now

namespace Twap

/-- The prices of these samples together. -/
def total (samples : List PriceQuote) : Int := (samples.map (·.price)).sum

/-- How a mean over a window ends. A sum that is too large is said to be that of the first ones. -/
inductive Ending (period : Int) (window : List PriceQuote) : Except Fault Int → Prop
  | empty : window = [] → Ending period window (refuse (.noSamples (.int period)))
  | tooLarge (n : Int) : i128Max < total window →
      Ending period window (refuse (.averageTooLarge n))
  | mean : window ≠ [] → total window ≤ i128Max →
      Ending period window (.ok (total window / window.length))

/-- Two ends that differ at most in the number of samples of which a sum was too large. -/
def Alike (a b : Except Fault Int) : Prop :=
  a = b ∨ ∃ m n, a = refuse (.averageTooLarge m) ∧ b = refuse (.averageTooLarge n)

section

variable {period now : Int} {samples window other : List PriceQuote}

theorem total_cons (q : PriceQuote) (samples : List PriceQuote) :
    total (q :: samples) = q.price + total samples := by
  rw [total, List.map_cons, List.sum_cons, total]

theorem total_nonneg (unsigned : ∀ q ∈ samples, 0 ≤ q.price) : 0 ≤ total samples := by
  refine List.sum_nonneg fun price listed => ?_
  obtain ⟨q, member, rfl⟩ := List.mem_map.mp listed
  exact unsigned q member

theorem total_perm (same : window.Perm other) : total window = total other :=
  (same.map _).sum_eq

/-- A sample in the window is added, unless the sum is too large then. -/
theorem accumulate_cons {q : PriceQuote} {rest : List PriceQuote} {sum : Int} (count : Int)
    (recent : now - q.publishTime ≤ period) (nonneg : 0 ≤ sum + q.price) :
    accumulate period now sum count (q :: rest) =
      if i128Max < sum + q.price then refuse (.averageTooLarge (count + 1))
      else accumulate period now (sum + q.price) (count + 1) rest := by
  have above : ¬ sum + q.price < i128Min := by
    rw [i128Min]
    omega
  rw [accumulate, inWindow, PriceQuote.age, ofInt_int, sub_int, Except.ok_bind, le_int,
    Except.ok_bind, decide_eq_true recent, if_pos rfl]
  simp only [above, decide_false, Bool.or_false, decide_eq_true_eq]
  split <;> rfl

/-- Samples of the window are added one after the other. Prices only raise the sum, so it is too
    large on the way exactly if it is so in the end. -/
theorem accumulate_recent (recent : ∀ q ∈ samples, now - q.publishTime ≤ period)
    (unsigned : ∀ q ∈ samples, 0 ≤ q.price) {sum : Int} (count : Int)
    (begins : 0 ≤ sum ∧ sum ≤ i128Max) :
    ∃ n, accumulate period now sum count samples =
      if i128Max < sum + total samples then refuse (.averageTooLarge n)
      else .ok (sum + total samples, count + samples.length) := by
  induction samples generalizing sum count with
  | nil =>
      refine ⟨0, ?_⟩
      simp [accumulate, total, Int.not_lt.mpr begins.2]
  | cons q rest ih =>
      obtain ⟨here, later⟩ := List.forall_mem_cons.mp recent
      obtain ⟨nonneg, others⟩ := List.forall_mem_cons.mp unsigned
      have more := total_nonneg others
      rw [accumulate_cons count here (by omega), total_cons, ← Int.add_assoc]
      by_cases large : i128Max < sum + q.price
      · refine ⟨count + 1, ?_⟩
        rw [if_pos large, if_pos (by omega)]
      · obtain ⟨n, rest⟩ := ih later others (count + 1) ⟨by omega, Int.not_lt.mp large⟩
        refine ⟨n, ?_⟩
        rw [if_neg large, rest, List.length_cons, Int.natCast_succ, Int.add_assoc count,
          Int.add_comm 1]

/-- How the mean of samples ends that all lie in the window, whatever their order. -/
theorem mean_ending (recent : ∀ q ∈ samples, now - q.publishTime ≤ period)
    (unsigned : ∀ q ∈ samples, 0 ≤ q.price) (same : samples.Perm window) :
    Ending period window (mean samples period now) := by
  obtain ⟨n, summed⟩ := accumulate_recent recent unsigned 0
    (by decide : (0 : Int) ≤ 0 ∧ (0 : Int) ≤ i128Max)
  rw [mean, summed, Int.zero_add, Int.zero_add, total_perm same, same.length_eq]
  split
  · exact .tooLarge n ‹_›
  · rename_i fits
    rw [Except.ok_bind]
    cases window with
    | nil => exact .empty rfl
    | cons q rest =>
        have counted : (0 : Int) < (q :: rest).length := by simp
        dsimp only
        rw [if_neg (Int.ne_of_gt counted), Int.fdiv_eq_ediv_of_nonneg _ (Int.le_of_lt counted)]
        exact .mean (List.cons_ne_nil q rest) (Int.not_lt.mp fits)

/-- The mean of some prices lies between the least and the greatest of them. -/
theorem mean_between (some : window ≠ []) :
    ∃ least ∈ window, ∃ greatest ∈ window,
      (∀ q ∈ window, least.price ≤ q.price ∧ q.price ≤ greatest.price) ∧
      least.price ≤ total window / window.length ∧
        total window / window.length ≤ greatest.price := by
  obtain ⟨least, isLeast⟩ := Option.ne_none_iff_exists'.mp
    (mt (List.argmin_eq_none (f := PriceQuote.price)).mp some)
  obtain ⟨greatest, isGreatest⟩ := Option.ne_none_iff_exists'.mp
    (mt (List.argmax_eq_none (f := PriceQuote.price)).mp some)
  have low : ∀ q ∈ window, least.price ≤ q.price := fun q member =>
    List.le_of_mem_argmin member isLeast
  have high : ∀ q ∈ window, q.price ≤ greatest.price := fun q member =>
    List.le_of_mem_argmax member isGreatest
  have counted : (0 : Int) < window.length := by
    exact_mod_cast List.length_pos_of_ne_nil some
  refine ⟨least, List.argmin_mem isLeast, greatest, List.argmax_mem isGreatest,
    fun q member => ⟨low q member, high q member⟩, ?_, ?_⟩
  · have below := List.card_nsmul_le_sum (window.map (·.price)) least.price
      (List.forall_mem_map.mpr low)
    rw [List.length_map, nsmul_eq_mul, mul_comm] at below
    exact (Int.le_ediv_iff_mul_le counted).mpr below
  · have above := List.sum_le_card_nsmul (window.map (·.price)) greatest.price
      (List.forall_mem_map.mpr high)
    rw [List.length_map, nsmul_eq_mul, mul_comm] at above
    exact Int.ediv_le_of_le_mul counted above

/-- Windows that differ in the order of their samples have means that end alike. -/
theorem Ending.alike {a b : Except Fault Int} (first : Ending period window a)
    (second : Ending period other b) (same : window.Perm other) : Alike a b := by
  have total := total_perm same
  have count := same.length_eq
  cases first with
  | empty none =>
      subst none
      cases second with
      | empty => exact .inl rfl
      | tooLarge n large =>
          rw [← total] at large
          cases large
      | mean some => exact absurd (List.nil_perm.mp same) some
  | tooLarge n large =>
      cases second with
      | empty none =>
          subst none
          rw [total] at large
          cases large
      | tooLarge m => exact .inr ⟨n, m, rfl, rfl⟩
      | mean _ fits => omega
  | mean some fits =>
      cases second with
      | empty none => exact absurd (List.perm_nil.mp (none ▸ same)) some
      | tooLarge n large => omega
      | mean =>
          rw [total, count]
          exact .inl rfl

/-- A refusal is no failure of a kind that its cause is not of. -/
theorem refuse_other {cause : Cause} {kind : FailureKind} (other : cause.kind ≠ kind) :
    ¬ ∃ e : Failure, e.kind = kind ∧ (refuse cause : Except Fault Int) = .error (.failure e) := by
  rintro ⟨e, same, failed⟩
  exact Cause.not_ofKind_fault other ⟨e, Except.error.inj failed, same⟩

theorem ok_other {kind : FailureKind} (n : Int) :
    ¬ ∃ e : Failure, e.kind = kind ∧ (.ok n : Except Fault Int) = .error (.failure e) := by
  rintro ⟨_, _, failed⟩
  cases failed

/-- Samples are lacking exactly if there are none, as long as the period can be told. -/
theorem Ending.lacks_iff {ended : Except Fault Int} (ends : Ending period window ended)
    (writable : Numeral.isWritable period = true) :
    (∃ e, e.kind = .insufficientPriceData ∧ ended = .error (.failure e)) ↔ window = [] := by
  cases ends with
  | empty none =>
      refine iff_of_true ⟨_, rfl, congrArg _ (Cause.fault_eq ?_)⟩ none
      simp only [Cause.shownValues, Json.allWritable, Json.isWritable, writable, Bool.and_self]
  | tooLarge n large =>
      have other : (Cause.averageTooLarge n).kind ≠ .insufficientPriceData := by
        rw [Cause.kind]
        decide
      refine iff_of_false (refuse_other other) ?_
      rintro rfl
      cases large
  | mean some => exact iff_of_false (ok_other _) some

/-- A period with too many digits breaks off telling that there are no samples. -/
theorem Ending.untold {ended : Except Fault Int} (ends : Ending period window ended)
    (none : window = []) (vast : ¬ Numeral.isWritable period = true) :
    ended = .error (.breakdown .tooManyDigits) := by
  subst none
  cases ends with
  | empty =>
      rw [refuse, Cause.fault, if_neg]
      simpa only [Cause.shownValues, Json.allWritable, Json.isWritable, Bool.and_true] using vast
  | tooLarge n large => cases large
  | mean some => exact absurd rfl some

theorem Ending.overflows_iff {ended : Except Fault Int} (ends : Ending period window ended) :
    (∃ e, e.kind = .overflow ∧ ended = .error (.failure e)) ↔ i128Max < total window := by
  cases ends with
  | empty none =>
      subst none
      have other : (Cause.noSamples (.int period)).kind ≠ .overflow := by
        rw [Cause.kind]
        decide
      exact iff_of_false (refuse_other other) (by decide)
  | tooLarge n large => exact iff_of_true ⟨_, rfl, rfl⟩ large
  | mean _ fits => exact iff_of_false (ok_other _) (Int.not_lt.mpr fits)

theorem Ending.mean_eq {ended : Except Fault Int} (ends : Ending period window ended)
    (some : window ≠ []) (fits : total window ≤ i128Max) :
    ended = .ok (total window / window.length) := by
  cases ends with
  | empty none => exact absurd none some
  | tooLarge n large => exact absurd fits (Int.not_le.mpr large)
  | mean => rfl

end

end Twap

namespace Oracle

open Twap

variable {o other : Oracle Int} {feed : Text} {period now : Int}

theorem samples_eq (o : Oracle Int) (feed : Text) (period now : Int) :
    o.samples (.text feed) period now =
      .ok ((o.window feed period now).mergeSort fun a b => a.publishTime ≤ b.publishTime) := by
  have recent : inWindow period now = fun q => .ok (decide (now - q.publishTime ≤ period)) := rfl
  rw [samples, filed, Except.ok_bind, recent, Except.filterM_ok, Except.ok_bind,
    List.filter_filter, window]
  rfl

theorem meanPrice_ending (unsigned : ∀ q ∈ o.window feed period now, 0 ≤ q.price) :
    Ending period (o.window feed period now) (o.meanPrice feed period now) := by
  rw [meanPrice, samples_eq, Except.ok_bind]
  have same := List.mergeSort_perm (o.window feed period now)
    fun a b => a.publishTime ≤ b.publishTime
  refine mean_ending (fun q member => ?_) (fun q member => ?_) same
  · have chosen := List.mem_filter.mp (same.mem_iff.mp member)
    simp only [Bool.and_eq_true, decide_eq_true_eq] at chosen
    exact chosen.2.1
  · exact unsigned q (same.mem_iff.mp member)

/-- Samples in order of time are summed up as they are. -/
theorem meanPrice_of_ordered
    (ordered : (o.window feed period now).Pairwise fun a b => a.publishTime ≤ b.publishTime) :
    o.meanPrice feed period now = Twap.mean (o.window feed period now) period now := by
  rw [meanPrice, samples_eq, Except.ok_bind, List.mergeSort_of_pairwise (by simpa using ordered)]

/-- Samples that are reordered, and samples added of other feeds or outside the window. -/
theorem window_perm {extra : List PriceQuote}
    (apart : ∀ q ∈ extra, q.feed ≠ feed ∨ period < now - q.publishTime)
    (same : (other.quotes ++ other.history).Perm (o.quotes ++ o.history ++ extra)) :
    (o.window feed period now).Perm (other.window feed period now) := by
  have none : (extra.filter fun q => decide (now - q.publishTime ≤ period) && q.feed == feed) =
      [] := by
    refine List.filter_eq_nil_iff.mpr fun q member => ?_
    simp only [Bool.and_eq_true, beq_iff_eq, decide_eq_true_eq, not_and]
    intro recent listed
    exact (apart q member).elim (· listed) (Int.not_lt.mpr recent)
  have chosen := same.filter fun q => decide (now - q.publishTime ≤ period) && q.feed == feed
  rw [List.filter_append (o.quotes ++ o.history), none, List.append_nil] at chosen
  exact chosen.symm

end Oracle

/-- A price trigger with a window compares the mean price, once the last quote has been checked. -/
theorem Run.readPrice_mean {options : RunOptions Int} {ctx : Context Int} {feed : Text}
    {period : Int} {m : Machine Int} {q : PriceQuote} {usable : UsablePrice} {world : World Int}
    (found : ctx.oracle.quote (.text feed) = .ok q)
    (passed : (q.validate options.limits none none ctx.now).result m.world = (.ok usable, world)) :
    (readPrice options ctx feed (some period)).result m =
      ((ctx.oracle.meanPrice feed period ctx.now).mapError Stop.fault, { m with world }) := by
  simp only [readPrice, found, result_bind, result_ofExcept, Except.mapError_ok, result_ofEngine,
    ofInt_int, passed, Oracle.meanPrice, Oracle.samples_eq, Except.ok_bind]

open Twap in
/-- The mean price depends on the samples of the feed in the window and on nothing else. It lacks
    samples if there are none, which cannot be told of a period with too many digits, overflows if
    their sum is too large, and otherwise is their mean, rounded down. Other samples do not change
    anything, and the order of the inputs changes at most of how many samples the sum is said to be
    that was too large. -/
theorem Oracle.meanPrice_of_window (o : Oracle Int) (feed : Text) (period now : Int)
    (unsigned : ∀ q ∈ o.quotes ++ o.history, 0 ≤ q.price) :
    let window := o.window feed period now
    let ended := o.meanPrice feed period now
    (Numeral.isWritable period →
      ((∃ e, e.kind = .insufficientPriceData ∧ ended = .error (.failure e)) ↔ window = [])) ∧
    (window = [] → ¬ Numeral.isWritable period → ended = .error (.breakdown .tooManyDigits)) ∧
    ((∃ e, e.kind = .overflow ∧ ended = .error (.failure e)) ↔ i128Max < total window) ∧
    (window ≠ [] → total window ≤ i128Max →
      ended = .ok (total window / window.length) ∧
      ∃ least ∈ window, ∃ greatest ∈ window,
        (∀ q ∈ window, least.price ≤ q.price ∧ q.price ≤ greatest.price) ∧
        least.price ≤ total window / window.length ∧
          total window / window.length ≤ greatest.price) ∧
    (∀ other : Oracle Int, other.window feed period now = window →
      other.meanPrice feed period now = ended) ∧
    (∀ other : Oracle Int, window.Perm (other.window feed period now) →
      Alike ended (other.meanPrice feed period now)) ∧
    (∀ (other : Oracle Int) (extra : List PriceQuote),
      (∀ q ∈ extra, q.feed ≠ feed ∨ period < now - q.publishTime) →
      (other.quotes ++ other.history).Perm (o.quotes ++ o.history ++ extra) →
      Alike ended (other.meanPrice feed period now)) ∧
    ∀ (options : RunOptions Int) (ctx : Context Int) (m : Machine Int) (q : PriceQuote)
      (usable : UsablePrice) (world : World Int), ctx.oracle = o → ctx.now = now →
      ctx.oracle.quote (.text feed) = .ok q →
      (q.validate options.limits none none now).result m.world = (.ok usable, world) →
      (Run.readPrice options ctx feed (some period)).result m =
        (ended.mapError Stop.fault, { m with world }) := by
  intro window ended
  have inside : ∀ q ∈ window, 0 ≤ q.price := fun q member =>
    unsigned q (List.mem_filter.mp member).1
  have ends : Ending period window ended := meanPrice_ending inside
  have reordered (other : Oracle Int) (same : window.Perm (other.window feed period now)) :
      Alike ended (other.meanPrice feed period now) :=
    ends.alike (meanPrice_ending fun q member => inside q (same.mem_iff.mpr member)) same
  refine ⟨fun writable => ?_, fun none unwritable => ?_, ?_, fun some fits => ?_,
    fun other same => ?_, reordered, fun other extra apart same => ?_, ?_⟩
  · exact ends.lacks_iff writable
  · exact ends.untold none unwritable
  · exact ends.overflows_iff
  · exact ⟨ends.mean_eq some fits, mean_between some⟩
  · change meanPrice other feed period now = meanPrice o feed period now
    rw [meanPrice, meanPrice, samples_eq, samples_eq, same]
  · exact reordered other (window_perm apart same)
  · rintro options ctx m q usable world rfl rfl found passed
    exact Run.readPrice_mean found passed

namespace Oracle

/-- A snapshot in no order of time. One sample is of another feed, and one of an hour ago. -/
def unsortedOracle : Oracle Int :=
  { now := 4000
    quotes := [⟨.raydium, "SOL", 100, 1, 4000⟩]
    history := [⟨.jupiter, "SOL", 104, 1, 3990⟩, ⟨.raydium, "BTC", 7, 1, 4000⟩,
      ⟨.raydium, "SOL", 8, 1, 400⟩, ⟨.serum, "SOL", 99, 1, 3980⟩] }

/-- The same snapshot without the two samples, and in order of time. -/
def sortedOracle : Oracle Int :=
  { now := 4000
    history := [⟨.serum, "SOL", 99, 1, 3980⟩, ⟨.jupiter, "SOL", 104, 1, 3990⟩,
      ⟨.raydium, "SOL", 100, 1, 4000⟩] }

/-- Three samples of 303 together have a mean of 101, in either order. -/
theorem unsortedOracle_meanPrice :
    unsortedOracle.meanPrice "SOL" 60 4000 = .ok 101 ∧
      Twap.Alike (.ok 101) (sortedOracle.meanPrice "SOL" 60 4000) := by
  obtain ⟨-, -, -, mean, -, reordered, -⟩ :=
    meanPrice_of_window unsortedOracle "SOL" 60 4000 (by decide)
  have taken : unsortedOracle.meanPrice "SOL" 60 4000 = .ok 101 := (mean (by decide) (by decide)).1
  exact ⟨taken, taken ▸ reordered sortedOracle (by decide)⟩

/-- A usable quote, and one sample of the same second that is too large to be added and one of
    nothing. -/
def excessiveOracle (first second : Int) : Oracle Int :=
  { now := 0
    quotes := [⟨.raydium, "SOL", 100000000, 1000, 0⟩]
    history := [⟨.raydium, "SOL", first, 1000, 0⟩, ⟨.raydium, "SOL", second, 1000, 0⟩] }

/-- The order of two samples shows in the overflow of their sum. A window of nothing has no end if
    its period has too many digits. -/
theorem excessiveOracle_tells_order :
    (excessiveOracle (2 ^ 127) 0).history.Perm (excessiveOracle 0 (2 ^ 127)).history ∧
      (excessiveOracle (2 ^ 127) 0).meanPrice "SOL" 60 0 = refuse (.averageTooLarge 2) ∧
      (excessiveOracle 0 (2 ^ 127)).meanPrice "SOL" 60 0 = refuse (.averageTooLarge 3) ∧
      (Oracle.mk 0 [] []).meanPrice "SOL" (10 ^ 4300 : Nat) 0 =
        .error (.breakdown .tooManyDigits) := by
  have vast : ¬ Numeral.isWritable (10 ^ 4300 : Nat) = true := by decide +kernel
  exact ⟨.swap _ _ _, (meanPrice_of_ordered (by decide)).trans rfl,
    (meanPrice_of_ordered (by decide)).trans rfl,
    (meanPrice_ending (List.forall_mem_nil _)).untold rfl vast⟩

end Oracle

end TradingEngine
