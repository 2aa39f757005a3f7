import TradingEngine.Proofs.Wording
import TradingEngine.Settings.Environment

/-! # Settings that were read

A whole number that is read from a text has no more digits than are written again. So every quantity
among the settings can be put into words, whatever the environment says.
-/

namespace TradingEngine

namespace Numeral

theorem digitValue_lt {c : Char} (digit : c.isDigit = true) : digitValue c < 10 := by
  simp only [Char.isDigit, Bool.and_eq_true, decide_eq_true_eq, UInt32.le_iff_toNat_le] at digit
  have low : (48 : Nat) ≤ c.val.toNat := digit.1
  have high : c.val.toNat ≤ 57 := digit.2
  show c.val.toNat - 48 < 10
  omega

/-- A row of digits stands for a number of no more digits. -/
theorem value_lt {ds : List Char} (digits : ∀ c ∈ ds, c.isDigit = true) :
    value ds < 10 ^ ds.length := by
  have counted (n : Nat) : ds.foldl (fun n c => n * 10 + digitValue c) n <
      (n + 1) * 10 ^ ds.length := by
    induction ds generalizing n with
    | nil => simp
    | cons c rest ih =>
        obtain ⟨digit, later⟩ := List.forall_mem_cons.mp digits
        have small := digitValue_lt digit
        rw [List.foldl_cons, List.length_cons, Nat.pow_succ', ← Nat.mul_assoc]
        refine Nat.lt_of_lt_of_le (ih later _) (Nat.mul_le_mul_right _ ?_)
        omega
  have whole := counted 0
  rwa [Nat.zero_add, Nat.one_mul] at whole

theorem lt_magnitudeLimit_of_bare? {cs : List Char} {n : Nat} (read : bare? cs = .ok n) :
    n < magnitudeLimit := by
  unfold bare? at read
  dsimp only at read
  split at read
  · cases read
  split at read
  · cases read
  split at read
  · cases read
  · cases read
    rename_i short _
    have digits : ∀ c ∈ cs.takeWhile Char.isDigit, c.isDigit = true :=
      List.all_eq_true.mp List.all_takeWhile
    have large (limit : Nat) (fits : (cs.takeWhile Char.isDigit).length ≤ limit) :
        10 ^ (cs.takeWhile Char.isDigit).length ≤ Nat.pow 10 limit :=
      Nat.pow_le_pow_right (by decide) fits
    unfold magnitudeLimit
    exact Nat.lt_of_lt_of_le (value_lt digits) (large digitLimit (Nat.not_lt.mp short))

theorem isWritable_of_strict? {cs : List Char} {n : Int} (read : strict? cs = .ok n) :
    isWritable n = true := by
  unfold strict? at read
  unfold isWritable
  rw [decide_eq_true_eq]
  split at read <;>
    · cases magnitude : bare? _ with
      | error m =>
          rw [magnitude] at read
          cases read
      | ok k =>
          have small := lt_magnitudeLimit_of_bare? magnitude
          rw [magnitude] at read
          cases Except.ok.inj read
          dsimp only
          omega

theorem isWritable_of_int? {cs : List Char} {n : Int} (read : int? cs = .ok n) :
    isWritable n = true := by
  unfold int? at read
  split at read
  · split at read
    · rename_i cleanly
      cases read
      obtain ⟨_, _, strictly⟩ := Option.map_eq_some_iff.mp cleanly
      exact isWritable_of_strict? strictly
    · cases read
  · exact isWritable_of_strict? read

end Numeral

theorem Decoder.isWritable_of_text {t : Text} {n : Int} (read : int (.text t) = .value n) :
    Numeral.isWritable n = true := by
  simp only [int] at read
  split at read
  · rename_i spelled
    cases read
    obtain ⟨_, _, spelled⟩ := Option.map_eq_some_iff.mp spelled
    exact Numeral.isWritable_of_int? spelled
  · cases read
  · cases read
  · cases read

namespace Settings

/-- Every quantity among the settings can be written. -/
def Writable (s : Settings Int) : Prop :=
  ∀ setting ∈ numbers, Numeral.isWritable (setting.get s) = true

theorem standard_writable : Writable standard := by
  have small {n : Int} (low : 0 ≤ n) (high : n ≤ u64Max) := Numeral.isWritable_of_u64 low high
  simp only [Writable, numbers, List.forall_mem_cons]
  refine ⟨?_, ?_, ?_, ?_, ?_, ?_, ?_, ?_, ?_, ?_, ?_, ?_, List.forall_mem_nil _⟩ <;>
    exact small (by decide) (by decide)

/-- Setting one quantity leaves the other ones. -/
theorem get_set (s : Settings Int) (n : Int) :
    ∀ setting ∈ numbers, ∀ other ∈ numbers, other.get (setting.set n s) = n ∨
      other.get (setting.set n s) = other.get s := by
  intro setting member other among
  simp only [numbers, List.mem_cons, List.not_mem_nil, or_false] at member among
  rcases member with rfl | rfl | rfl | rfl | rfl | rfl | rfl | rfl | rfl | rfl | rfl | rfl <;>
    rcases among with rfl | rfl | rfl | rfl | rfl | rfl | rfl | rfl | rfl | rfl | rfl | rfl <;>
      first | exact .inl rfl | exact .inr rfl

/-- Setting a text leaves the quantities. -/
theorem get_setText (s : Settings Int) (t : Text) :
    ∀ setting ∈ strings, ∀ other ∈ numbers, other.get (setting.set t s) = other.get s := by
  intro setting member other among
  simp only [strings, numbers, List.mem_cons, List.not_mem_nil, or_false] at member among
  rcases member with rfl | rfl | rfl | rfl | rfl <;>
    rcases among with rfl | rfl | rfl | rfl | rfl | rfl | rfl | rfl | rfl | rfl | rfl | rfl <;> rfl

theorem withText_writable (environment : List Variable) {s : Settings Int} (before : s.Writable)
    {setting : TextSetting Int} (member : setting ∈ strings) :
    (withText environment s setting).Writable := by
  unfold withText
  split
  · exact before
  · intro other among
    rw [get_setText s _ setting member other among]
    exact before other among

theorem withNumber_writable (environment : List Variable) {read : Decoded (Settings Int)}
    (before : ∀ s, read = .value s → s.Writable) {setting : NumberSetting Int}
    (member : setting ∈ numbers) :
    ∀ s, withNumber environment read setting = .value s → s.Writable := by
  intro s done
  unfold withNumber at done
  split at done
  · exact before s done
  · rename_i text _
    cases read with
    | problems ps => cases number : Decoder.int (.text text) <;> rw [number] at done <;> cases done
    | broken b => cases done
    | value earlier =>
        cases number : Decoder.int (.text text) with
        | problems ps =>
            rw [number] at done
            cases done
        | broken b =>
            rw [number] at done
            cases done
        | value n =>
            rw [number] at done
            cases done
            intro other among
            dsimp only
            rcases get_set earlier n setting member other among with new | same
            · rw [Quantity.ofInt_int, new]
              exact Decoder.isWritable_of_text number
            · rw [Quantity.ofInt_int, same]
              exact before earlier rfl other among

/-- Every quantity that is read from an environment can be written. -/
theorem ofEnvironment_writable {environment : List Variable} {s : Settings Int}
    (read : ofEnvironment environment = .value s) : s.Writable := by
  have texts (rest : List (TextSetting Int)) (known : ∀ setting ∈ rest, setting ∈ strings)
      (start : Settings Int) (before : start.Writable) :
      (rest.foldl (withText environment) start).Writable := by
    induction rest generalizing start with
    | nil => exact before
    | cons setting rest ih =>
        obtain ⟨here, later⟩ := List.forall_mem_cons.mp known
        exact ih later _ (withText_writable environment before here)
  have all (rest : List (NumberSetting Int)) (known : ∀ setting ∈ rest, setting ∈ numbers)
      (start : Decoded (Settings Int)) (before : ∀ s, start = .value s → s.Writable) :
      ∀ s, rest.foldl (withNumber environment) start = .value s → s.Writable := by
    induction rest generalizing start with
    | nil => exact before
    | cons setting rest ih =>
        obtain ⟨here, later⟩ := List.forall_mem_cons.mp known
        exact ih later _ (withNumber_writable environment before here)
  refine all numbers (fun _ member => member) _ ?_ s read
  intro start same
  cases same
  exact texts strings (fun _ member => member) _ standard_writable

end Settings

end TradingEngine
