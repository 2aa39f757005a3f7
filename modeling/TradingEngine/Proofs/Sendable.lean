import TradingEngine.Proofs.Json.Fields
import TradingEngine.Proofs.Wording

/-! # What can be sent

A value can be sent if it has no number with too many digits and no half of a surrogate pair. That
is so of a record if it is so of its fields, so the report of a failure can be sent if the message
of its cause and the values beside it can. What is reported never covers the code of the failure. An
operation is clear if the operator can be told of every failure in which it ends, and that composes.
-/

namespace TradingEngine

open Quantity

namespace Text

@[simp] theorem isWhole_append (a b : Text) : (a ++ b).isWhole = (a.isWhole && b.isWhole) :=
  List.all_append

@[simp] theorem isWhole_ofString (s : String) : (ofString s).isWhole = true := by
  simp [isWhole, ofString, ofChars, Letter.char?]

end Text

namespace Json

/-- What is sent without breaking down. -/
structure Sendable (v : Json) : Prop where
  numbers : v.checkNumbers = .ok ()
  whole : v.isWhole = true

theorem Sendable.checkSent {v : Json} (h : v.Sendable) : v.checkSent = .ok () := by
  simp only [Json.checkSent, h.numbers, h.whole]
  rfl

theorem sendable_text {t : Text} (whole : t.isWhole = true) : (text t).Sendable := ⟨rfl, whole⟩

theorem sendable_int {n : Int} (writable : Numeral.isWritable n = true) : (int n).Sendable where
  numbers := by rw [checkNumbers, if_pos writable]
  whole := rfl

theorem sendable_list {xs : List Json} (each : ∀ x ∈ xs, x.Sendable) : (list xs).Sendable := by
  induction xs with
  | nil => exact ⟨rfl, rfl⟩
  | cons x xs ih =>
      obtain ⟨first, rest⟩ := List.forall_mem_cons.mp each
      obtain ⟨numbers, whole⟩ := ih rest
      rw [checkNumbers] at numbers
      rw [isWhole] at whole
      constructor
      · rw [checkNumbers, checkItems, first.numbers]
        exact numbers
      · rw [isWhole, allWhole, first.whole, whole]
        rfl

theorem sendable_record {fs : Fields}
    (each : ∀ field ∈ fs, field.1.isWhole = true ∧ field.2.Sendable) : (record fs).Sendable := by
  induction fs with
  | nil => exact ⟨rfl, rfl⟩
  | cons field fs ih =>
      obtain ⟨⟨name, value⟩, rest⟩ := List.forall_mem_cons.mp each
      obtain ⟨numbers, whole⟩ := ih rest
      rw [checkNumbers] at numbers
      rw [isWhole] at whole
      constructor
      · rw [checkNumbers, checkFields, value.numbers]
        exact numbers
      · rw [isWhole, fieldsWhole, name, value.whole, whole]
        rfl

theorem lookup_putAll {key : Text} {additions : Fields} (fresh : key ∉ additions.map (·.1))
    (base : Fields) : lookup key (putAll base additions) = lookup key base := by
  induction additions generalizing base with
  | nil => rfl
  | cons head tail ih =>
      simp only [List.map_cons, List.mem_cons, not_or] at fresh
      exact (ih fresh.2 _).trans (by rw [lookup_put, if_neg (Ne.symm fresh.1)])

end Json

/-! ### Failures -/

/-- A cause that can be reported to the operator. -/
structure Cause.Sendable (c : Cause) : Prop where
  message : c.message.isWhole = true
  context : ∀ field ∈ c.context, field.1.isWhole = true ∧ field.2.Sendable

/-- A fault of which the operator can be told, if it is one that the operator is told of. -/
def Fault.Sendable : Fault → Prop
  | .failure f => (Json.record f.report).Sendable
  | _ => True

theorem Cause.Sendable.report {c : Cause} (h : c.Sendable) :
    (Json.record (Failure.mk c none).report).Sendable := by
  refine Json.sendable_record fun field member => ?_
  rcases Json.mem_putAll member with own | beside
  · rcases List.mem_cons.mp own with rfl | own
    · exact ⟨Text.isWhole_ofString _, Json.sendable_text (Text.isWhole_ofString _)⟩
    · cases List.mem_singleton.mp own
      exact ⟨Text.isWhole_ofString _, Json.sendable_text h.message⟩
  · exact h.context field ((List.append_nil c.context) ▸ beside)

theorem Cause.fault_sendable {c : Cause}
    (h : Json.allWritable c.shownValues = true → c.Sendable) : c.fault.Sendable := by
  unfold Cause.fault
  split
  · exact (h ‹_›).report
  · trivial

theorem Cause.code_notMem_context (c : Cause) : Text.ofString "code" ∉ c.context.map (·.1) := by
  cases c with
  | triggerUnsatisfied block reading | conditionUnmet block reading =>
      cases reading <;> simp [context, Reading.fields, Text.ofString_inj]
  | _ => simp [context, Text.ofString_inj]

/-- The report of a failure tells its code: nothing beside the message has that name. -/
theorem Failure.code_report (f : Failure) :
    Json.lookup "code" f.report = some (.text f.code) := by
  have fresh : Text.ofString "code" ∉ f.context.map (·.1) := by
    rw [context, List.map_append, List.mem_append, not_or]
    refine ⟨f.cause.code_notMem_context, ?_⟩
    cases f.entryFill <;> simp [Text.ofString_inj]
  exact Json.lookup_putAll fresh _

/-! ### Operations -/

section

variable {ν α β : Type} {P : α → Prop} {Q : β → Prop}

/-- An end that is a value with `Q`, or else a fault that can be sent. -/
def Clear (Q : α → Prop) : Except Fault α → Prop
  | .ok a => Q a
  | .error f => f.Sendable

theorem clear_refuse {c : Cause} (h : Json.allWritable c.shownValues = true → c.Sendable) :
    Clear P (refuse c) := Cause.fault_sendable h

theorem clear_bind {r : Except Fault α} {next : α → Except Fault β} (first : Clear P r)
    (rest : ∀ a, P a → Clear Q (next a)) : Clear Q (r >>= next) := by
  cases r with
  | ok a => exact rest a first
  | error f => exact first

theorem clear_step {r : Except Fault α} {next : α → Except Fault β}
    (first : Clear (fun _ => True) r) (rest : ∀ a, Clear Q (next a)) : Clear Q (r >>= next) :=
  clear_bind first fun a _ => rest a

namespace Engine

/-- An operation that ends so from every world. -/
def Clears (Q : α → Prop) (op : Engine ν α) : Prop := ∀ w, Clear Q (op.result w).1

theorem clears_pure {a : α} (h : P a) : Clears P (pure a : Engine ν α) := fun _ => h

theorem clears_ofExcept {r : Except Fault α} (h : Clear P r) :
    Clears P (ofExcept r : Engine ν α) := by
  intro w
  rw [result_ofExcept]
  exact h

theorem clears_settings : Clears (fun _ => True) (settings : Engine ν (Settings ν)) :=
  fun _ => trivial

theorem clears_count (tally : Tally) : Clears (fun _ => True) (count tally : Engine ν Unit) :=
  fun _ => trivial

theorem clears_breakdown (b : Breakdown) : Clears P (fault (.breakdown b) : Engine ν α) :=
  fun _ => trivial

theorem clears_fail {c : Cause} (h : Json.allWritable c.shownValues = true → c.Sendable) :
    Clears P (fail c : Engine ν α) := fun _ => Cause.fault_sendable h

theorem clears_log (level : Level) (event : Text) (fields : Fields) :
    Clears (fun _ => True) (log level event fields : Engine ν Unit) := by
  intro w
  rw [result_log]
  cases w.journal.write level event fields <;> trivial

theorem clears_bind {op : Engine ν α} {next : α → Engine ν β} (first : Clears P op)
    (rest : ∀ a, P a → Clears Q (next a)) : Clears Q (op >>= next) := by
  intro w
  have ended := first w
  rw [result_bind]
  cases reached : op.result w with
  | mk r after =>
      rw [reached] at ended
      cases r with
      | ok a => exact rest a ended after
      | error f => exact ended

theorem clears_step {op : Engine ν α} {next : α → Engine ν β}
    (first : Clears (fun _ => True) op) (rest : ∀ a, Clears Q (next a)) : Clears Q (op >>= next) :=
  clears_bind first fun a _ => rest a

theorem clears_mapM {f : α → Engine ν β} {xs : List α} (each : ∀ x ∈ xs, Clears Q (f x)) :
    Clears (fun ys => ∀ y ∈ ys, Q y) (xs.mapM f) := by
  induction xs with
  | nil =>
      rw [List.mapM_nil]
      exact clears_pure nofun
  | cons x xs ih =>
      obtain ⟨first, others⟩ := List.forall_mem_cons.mp each
      rw [List.mapM_cons]
      exact clears_bind first fun y good => clears_bind (ih others) fun ys rest =>
        clears_pure (List.forall_mem_cons.mpr ⟨good, rest⟩)

theorem clears_filterMapM {f : α → Engine ν (Option β)} {xs : List α}
    (each : ∀ x ∈ xs, Clears (fun found => ∀ y ∈ found, Q y) (f x)) :
    Clears (fun ys => ∀ y ∈ ys, Q y) (xs.filterMapM f) := by
  induction xs with
  | nil =>
      rw [List.filterMapM_nil]
      exact clears_pure nofun
  | cons x xs ih =>
      obtain ⟨first, others⟩ := List.forall_mem_cons.mp each
      rw [List.filterMapM_cons]
      refine clears_bind first fun found good => ?_
      cases found with
      | none => exact ih others
      | some y =>
          exact clears_bind (ih others) fun ys rest =>
            clears_pure (List.forall_mem_cons.mpr ⟨good y rfl, rest⟩)

end Engine

end

/-! ### Arithmetic -/

theorem Numeral.isWritable_of_u128 {n : Int} (low : 0 ≤ n) (high : n ≤ u128Max) :
    isWritable n = true := by
  rw [u128Max] at high
  exact isWritable_of_small (by omega) (by omega)

namespace Checked

variable {a b : Int}

/-- A product that is not refused is at most of 128 bits. -/
theorem product_clear (first : Numeral.isWritable a = true) (second : Numeral.isWritable b = true) :
    Clear (fun n => n = a * b ∧ n ≤ u128Max) (product a b) := by
  refine clear_bind (P := (· = a * b)) rfl fun n same => ?_
  simp only [ofInt_int, lt_int, toJson_int, Except.ok_bind, decide_eq_true_eq]
  split
  · refine clear_refuse fun _ => ⟨rfl, ?_⟩
    simp [Cause.context, Json.sendable_int, first, second]
  · exact ⟨same, Int.not_lt.mp ‹_›⟩

/-- The quotient of a small dividend is small. -/
theorem quotient_clear (dividend : 0 ≤ a) (small : a ≤ u128Max) (divisor : 0 ≤ b) :
    Clear (fun n => 0 ≤ n ∧ n ≤ u128Max) (quotient a b) := by
  simp only [quotient, isZero_int, toJson_int, floorDiv_int, decide_eq_true_eq]
  split
  · refine clear_refuse fun _ => ⟨rfl, ?_⟩
    simp [Cause.context, Json.sendable_int (Numeral.isWritable_of_u128 dividend small)]
  · rw [Int.fdiv_eq_ediv_of_nonneg a divisor]
    exact ⟨Int.ediv_nonneg dividend divisor, Int.le_trans (Int.ediv_le_self b dividend) small⟩

end Checked

end TradingEngine
