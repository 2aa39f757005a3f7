import Mathlib.Algebra.Ring.Int.Defs
import Mathlib.Algebra.Ring.Nat
import TradingEngine.Arithmetic.ConstantProduct
import TradingEngine.Proofs.Except
import TradingEngine.Proofs.Frame

/-! # What can be put into words

A refusal becomes a failure if the values that it shows can be written, and a breakdown otherwise.
The checked arithmetic shows no values, so on whole numbers it can only overflow. An entry of
the journal can be written if its own fields and the bound ones can.
-/

namespace TradingEngine

/-- Whether a fault is a failure that carries no fill. -/
def Fault.Worded (f : Fault) : Prop := ∃ cause, f = .failure ⟨cause, none⟩

theorem Cause.fault_eq {cause : Cause} (writable : Json.allWritable cause.shownValues = true) :
    cause.fault = .failure ⟨cause, none⟩ := by
  rw [Cause.fault, if_pos writable]

theorem Cause.worded {cause : Cause} (writable : Json.allWritable cause.shownValues = true) :
    cause.fault.Worded := ⟨cause, Cause.fault_eq writable⟩

/-- Whatever fault a computation ends in, it is a failure that carries no fill. -/
def Worded {α : Type} (r : Except Fault α) : Prop := ∀ f, r = .error f → f.Worded

section

variable {α β : Type}

theorem worded_ok (a : α) : Worded (.ok a) := by
  intro f h
  cases h

theorem worded_refuse {cause : Cause} (writable : Json.allWritable cause.shownValues = true) :
    Worded (refuse cause : Except Fault α) := by
  intro f h
  cases h
  exact Cause.worded writable

theorem worded_bind {r : Except Fault α} {next : α → Except Fault β} (first : Worded r)
    (rest : ∀ a, r = .ok a → Worded (next a)) : Worded (r >>= next) := by
  intro f h
  cases r with
  | ok a => exact rest a rfl f h
  | error g =>
      cases h
      exact first _ rfl

theorem worded_filterM {judge : α → Except Fault Bool} (each : ∀ a, Worded (judge a))
    (xs : List α) : Worded (xs.filterM judge) := by
  have gather (kept : List α) : Worded (xs.filterAuxM judge kept) := by
    induction xs generalizing kept with
    | nil => exact worded_ok kept
    | cons x xs ih => exact worded_bind (each x) fun passed _ => ih _
  exact worded_bind (gather []) fun kept _ => worded_ok _

end

/-! ### Arithmetic -/

/-- Whether a computation ends in an overflow. -/
def Overflows {α : Type} (r : Except Fault α) : Prop :=
  ∃ e, e.kind = .overflow ∧ r = .error (.failure e)

/-- Whatever fault a computation ends in, it is an overflow that carries no fill. -/
def Overflowing {α : Type} (r : Except Fault α) : Prop :=
  ∀ f, r = .error f → ∃ cause, cause.kind = .overflow ∧ f = .failure ⟨cause, none⟩

section

variable {α β : Type}

theorem Overflowing.worded {r : Except Fault α} (h : Overflowing r) : Worded r := by
  intro f failed
  obtain ⟨cause, _, rfl⟩ := h f failed
  exact ⟨cause, rfl⟩

theorem overflows_ok (a : α) : Overflowing (.ok a) := by
  intro f h
  cases h

theorem overflows_refuse {cause : Cause} (kind : cause.kind = .overflow)
    (writable : Json.allWritable cause.shownValues = true) :
    Overflowing (refuse cause : Except Fault α) := by
  intro f h
  cases h
  exact ⟨cause, kind, Cause.fault_eq writable⟩

theorem overflows_bind {r : Except Fault α} {next : α → Except Fault β} (first : Overflowing r)
    (rest : ∀ a, r = .ok a → Overflowing (next a)) : Overflowing (r >>= next) := by
  intro f h
  cases r with
  | ok a => exact rest a rfl f h
  | error g =>
      cases h
      exact first _ rfl

end

namespace Checked

variable (a b : Int)

theorem amount_overflows (operand : String) : Overflowing (amount operand a) := by
  rw [amount, Quantity.whole?_int]
  dsimp only
  split
  · exact overflows_refuse rfl rfl
  · exact overflows_ok a

theorem product_overflows : Overflowing (product a b) := by
  refine overflows_bind (overflows_ok _) fun n _ => ?_
  refine overflows_bind (overflows_ok _) fun tooLarge _ => ?_
  cases tooLarge with
  | true => exact overflows_refuse rfl rfl
  | false => exact overflows_ok n

theorem sum_overflows : Overflowing (sum a b) := by
  refine overflows_bind (overflows_ok _) fun n _ => ?_
  refine overflows_bind (overflows_ok _) fun tooLarge _ => ?_
  cases tooLarge with
  | true => exact overflows_refuse rfl rfl
  | false => exact overflows_ok n

theorem difference_overflows : Overflowing (difference a b) := by
  refine overflows_bind (overflows_ok _) fun negative _ => ?_
  cases negative with
  | true => exact overflows_refuse rfl rfl
  | false => exact overflows_ok _

theorem quotient_overflows : Overflowing (quotient a b) := by
  by_cases zero : b = 0
  · simp only [quotient, Quantity.isZero_int, zero, decide_true, if_true]
    exact overflows_refuse rfl rfl
  · simp only [quotient, Quantity.isZero_int, Quantity.floorDiv_int, zero, decide_false,
      Bool.false_eq_true, if_false]
    exact overflows_ok _

theorem toU64_overflows : Overflowing (toU64 a) := by
  refine overflows_bind (overflows_ok _) fun tooLarge _ => ?_
  cases tooLarge with
  | true => exact overflows_refuse rfl rfl
  | false => exact overflows_ok a

end Checked

namespace ConstantProduct

open Checked

theorem haircut_overflows (value bps : Int) : Overflowing (haircut value bps) := by
  refine overflows_bind (amount_overflows _ _) fun _ _ => ?_
  refine overflows_bind (overflows_ok _) fun low _ => ?_
  cases low with
  | true => exact overflows_refuse rfl rfl
  | false =>
      refine overflows_bind (overflows_ok _) fun high _ => ?_
      cases high with
      | true => exact overflows_refuse rfl rfl
      | false =>
          exact overflows_bind (overflows_ok _) fun kept _ =>
            overflows_bind (product_overflows _ _) fun scaled _ =>
              overflows_bind (quotient_overflows _ _) fun n _ => toU64_overflows n

theorem swapOutput_overflows (amountIn reserveIn reserveOut feeBps : Int) :
    Overflowing (swapOutput amountIn reserveIn reserveOut feeBps) := by
  refine overflows_bind (amount_overflows _ _) fun _ _ => ?_
  refine overflows_bind (amount_overflows _ _) fun _ _ => ?_
  refine overflows_bind (amount_overflows _ _) fun _ _ => ?_
  refine overflows_bind (haircut_overflows _ _) fun net _ => ?_
  refine overflows_bind (product_overflows _ _) fun numerator _ => ?_
  refine overflows_bind (sum_overflows _ _) fun denominator _ => ?_
  exact overflows_bind (quotient_overflows _ _) fun n _ => toU64_overflows n

theorem swapInput_overflows (amountOut reserveIn reserveOut feeBps : Int) :
    Overflowing (swapInput amountOut reserveIn reserveOut feeBps) := by
  refine overflows_bind (amount_overflows _ _) fun _ _ => ?_
  refine overflows_bind (amount_overflows _ _) fun _ _ => ?_
  refine overflows_bind (amount_overflows _ _) fun _ _ => ?_
  refine overflows_bind (overflows_ok _) fun drains _ => ?_
  cases drains with
  | true => exact overflows_refuse rfl rfl
  | false =>
      refine overflows_bind (product_overflows _ _) fun _ _ => ?_
      refine overflows_bind (product_overflows _ _) fun numerator _ => ?_
      refine overflows_bind (difference_overflows _ _) fun left _ => ?_
      refine overflows_bind (overflows_ok _) fun kept _ => ?_
      refine overflows_bind (product_overflows _ _) fun denominator _ => ?_
      refine overflows_bind (quotient_overflows _ _) fun least _ => ?_
      exact overflows_bind (sum_overflows _ _) fun total _ => toU64_overflows total

theorem priceImpactBps_overflows (amountIn amountOut reserveIn reserveOut : Int) :
    Overflowing (priceImpactBps amountIn amountOut reserveIn reserveOut) := by
  refine overflows_bind (amount_overflows _ _) fun _ _ => ?_
  refine overflows_bind (amount_overflows _ _) fun _ _ => ?_
  refine overflows_bind (product_overflows _ _) fun spot _ => ?_
  refine overflows_bind (quotient_overflows _ _) fun n _ => ?_
  refine overflows_bind (toU64_overflows _) fun expected _ => ?_
  refine overflows_bind (difference_overflows _ _) fun shortfall _ => ?_
  exact overflows_bind (product_overflows _ _) fun scaled _ => quotient_overflows _ _

theorem lpMint_overflows (amountA amountB reserveA reserveB supply : Int) :
    Overflowing (lpMint amountA amountB reserveA reserveB supply) := by
  refine overflows_bind (amount_overflows _ _) fun _ _ => ?_
  refine overflows_bind (amount_overflows _ _) fun _ _ => ?_
  refine overflows_bind (product_overflows _ _) fun _ _ => ?_
  refine overflows_bind (quotient_overflows _ _) fun _ _ => ?_
  refine overflows_bind (amount_overflows _ _) fun _ _ => ?_
  refine overflows_bind (product_overflows _ _) fun _ _ => ?_
  refine overflows_bind (quotient_overflows _ _) fun _ _ => ?_
  exact overflows_bind (overflows_ok _) fun least _ => toU64_overflows least

theorem lpBurn_overflows (burned reserveA reserveB supply : Int) :
    Overflowing (lpBurn burned reserveA reserveB supply) := by
  refine overflows_bind (amount_overflows _ _) fun _ _ => ?_
  refine overflows_bind (overflows_ok _) fun tooMany _ => ?_
  cases tooMany with
  | true => exact overflows_refuse rfl rfl
  | false =>
      refine overflows_bind (product_overflows _ _) fun _ _ => ?_
      refine overflows_bind (quotient_overflows _ _) fun _ _ => ?_
      refine overflows_bind (product_overflows _ _) fun _ _ => ?_
      refine overflows_bind (quotient_overflows _ _) fun _ _ => ?_
      refine overflows_bind (toU64_overflows _) fun _ _ => ?_
      exact overflows_bind (toU64_overflows _) fun _ _ => overflows_ok _

end ConstantProduct

/-! ### Numbers that cannot be written -/

section

variable {α : Type} {ended : Except Fault α}

/-- Whether a computation broke off at a number with too many digits. -/
def brokeOff : Except Fault α → Bool
  | .error (.breakdown .tooManyDigits) => true
  | _ => false

theorem of_brokeOff (h : brokeOff ended = true) : ended = .error (.breakdown .tooManyDigits) := by
  unfold brokeOff at h
  split at h
  · rfl
  · cases h

end

/-! ### Entries -/

namespace Json

theorem allWritable_of_mem {vs : List Json} (each : ∀ v ∈ vs, v.isWritable = true) :
    allWritable vs = true := by
  induction vs with
  | nil => rfl
  | cons v vs ih =>
      simp only [allWritable, Bool.and_eq_true]
      exact ⟨each v List.mem_cons_self, ih fun u member => each u (List.mem_cons_of_mem v member)⟩

theorem fieldsWritable_put {key : Text} {v : Json} {fs : Fields} (value : v.isWritable = true)
    (fields : fieldsWritable fs = true) : fieldsWritable (put key v fs) = true := by
  induction fs with
  | nil => simp [put, fieldsWritable, value]
  | cons head tail ih =>
      obtain ⟨name, old⟩ := head
      simp only [fieldsWritable, Bool.and_eq_true] at fields
      rw [put]
      split
      · simp only [fieldsWritable, Bool.and_eq_true]
        exact ⟨value, fields.2⟩
      · simp only [fieldsWritable, Bool.and_eq_true]
        exact ⟨fields.1, ih fields.2⟩

theorem fieldsWritable_putAll {base additions : Fields} (fields : fieldsWritable base = true)
    (added : fieldsWritable additions = true) : fieldsWritable (putAll base additions) = true := by
  induction additions generalizing base with
  | nil => exact fields
  | cons head tail ih =>
      obtain ⟨key, v⟩ := head
      simp only [fieldsWritable, Bool.and_eq_true] at added
      exact ih (fieldsWritable_put added.1 fields) added.2

theorem fieldsWritable_filter {kept : Text × Json → Bool} {fs : Fields}
    (fields : fieldsWritable fs = true) : fieldsWritable (fs.filter kept) = true := by
  induction fs with
  | nil => rfl
  | cons head tail ih =>
      obtain ⟨name, v⟩ := head
      simp only [fieldsWritable, Bool.and_eq_true] at fields
      rw [List.filter_cons]
      split
      · simp only [fieldsWritable, Bool.and_eq_true]
        exact ⟨fields.1, ih fields.2⟩
      · exact ih fields.2

end Json

/-- These numbers are far from having too many digits. -/
theorem Numeral.isWritable_of_small {n : Int} (low : -2 ^ 128 ≤ n) (high : n ≤ 2 ^ 128) :
    isWritable n = true := by
  have small : n.natAbs < 10 ^ 40 := by omega
  have large (limit : Nat) (digits : 40 ≤ limit) : 10 ^ 40 ≤ Nat.pow 10 limit :=
    Nat.pow_le_pow_right (by decide) digits
  unfold isWritable magnitudeLimit
  rw [decide_eq_true_eq]
  exact Nat.lt_of_lt_of_le small (large digitLimit (by decide))

theorem Numeral.isWritable_of_u64 {n : Int} (low : 0 ≤ n) (high : n ≤ u64Max) :
    isWritable n = true := by
  rw [u64Max] at high
  exact isWritable_of_small (by omega) (by omega)

theorem Numeral.isWritable_of_natAbs_le {a b : Int} (smaller : a.natAbs ≤ b.natAbs)
    (writable : isWritable b = true) : isWritable a = true := by
  unfold isWritable at *
  rw [decide_eq_true_eq] at *
  exact Nat.lt_of_le_of_lt smaller writable

/-- An entry is taken if its own fields and the bound ones can be written. -/
theorem Journal.write_ok (level : Level) (event : Text) {fields : Fields} {j : Journal}
    (bound : Json.fieldsWritable j.bound = true) (own : Json.fieldsWritable fields = true) :
    ∃ after, j.write level event fields = .ok after := by
  let kept : Fields := (Json.putAll j.bound fields).filter fun field => !ownFields.contains field.1
  have keptWritable : Json.fieldsWritable kept = true :=
    Json.fieldsWritable_filter (Json.fieldsWritable_putAll bound own)
  have written : (Entry.toJson ⟨.string level.name, .text event, kept, j.shows level⟩).isWritable =
      true :=
    Json.fieldsWritable_putAll (Json.fieldsWritable_putAll keptWritable rfl) rfl
  simp only [write, note, add]
  rw [if_neg]
  · exact ⟨_, rfl⟩
  · intro unwritable
    rw [Bool.and_eq_true, Bool.not_eq_true'] at unwritable
    exact absurd (written.symm.trans unwritable.2) (by decide)

theorem Journal.of_write_error {level : Level} {event : Text} {fields : Fields} {j : Journal}
    {b : Breakdown} (h : j.write level event fields = .error b) : b = .tooManyDigits := by
  simp only [write, note, add] at h
  split at h
  · exact (Except.error.inj h).symm
  · cases h

theorem Journal.unwritable_of_write_error {level : Level} {event : Text} {fields : Fields}
    {j : Journal} {b : Breakdown} (h : j.write level event fields = .error b) :
    ¬ (Json.fieldsWritable j.bound = true ∧ Json.fieldsWritable fields = true) := by
  rintro ⟨bound, own⟩
  obtain ⟨_, taken⟩ := write_ok level event bound own
  cases h.symm.trans taken

/-- An entry that can be written is taken, and nothing but the journal changes. -/
theorem Engine.log_ok {ν : Type} {w : World ν} (level : Level) (event : Text) {fields : Fields}
    (other : event ≠ Entry.dispatchEvent) (bound : Json.fieldsWritable w.journal.bound = true)
    (own : Json.fieldsWritable fields = true) :
    ∃ after, (log level event fields).result w = (.ok (), after) ∧ w.Noted after := by
  obtain ⟨journal, written⟩ := Journal.write_ok level event bound own
  have noted := log_noted level event fields other w
  rw [result_log, written] at noted ⊢
  exact ⟨_, rfl, noted⟩

end TradingEngine
