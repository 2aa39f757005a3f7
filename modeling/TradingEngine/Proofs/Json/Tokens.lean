import TradingEngine.Json.Parser
import TradingEngine.Json.Printer

/-! # Numerals and strings that are read back

The written form of a whole number, and that of a text, is read as that number and that text,
whatever follows. A number needs something behind it that does not go on with it; a text may not
hold both halves of a surrogate pair side by side, since these are spelled like the character of the
pair.
-/

namespace TradingEngine

/-! ### Digits -/

namespace Numeral

theorem digitValue_digitChar {d : Nat} (small : d < 10) : digitValue (digitChar d) = d := by
  revert d
  decide

theorem isDigit_digitChar {d : Nat} (small : d < 10) : (digitChar d).isDigit = true := by
  revert d
  decide

theorem value_append (ds : List Char) (c : Char) :
    value (ds ++ [c]) = value ds * 10 + digitValue c := by
  simp [value]

/-- The digits of a number stand for it. -/
theorem value_digits (n : Nat) : value (digits n) = n := by
  rw [digits]
  split
  · rename_i small
    simp [value, digitValue_digitChar small]
  · rw [value_append, value_digits (n / 10), digitValue_digitChar (by omega)]
    omega
termination_by n
decreasing_by omega

theorem isDigit_of_mem_digits {n : Nat} : ∀ c ∈ digits n, c.isDigit = true := by
  rw [digits]
  split
  · rename_i small
    simp [isDigit_digitChar small]
  · intro c member
    rcases List.mem_append.mp member with before | last
    · exact isDigit_of_mem_digits c before
    · rw [List.mem_singleton.mp last]
      exact isDigit_digitChar (by omega)
termination_by n
decreasing_by omega

/-- The digits of a number begin with its first one, which is no zero unless the number is. -/
theorem digits_head (n : Nat) :
    ∃ c rest, digits n = c :: rest ∧ c.isDigit = true ∧ (c = '0' → rest = []) := by
  rw [digits]
  split
  · rename_i small
    exact ⟨digitChar n, [], rfl, isDigit_digitChar small, fun _ => rfl⟩
  · obtain ⟨c, rest, first, digit, alone⟩ := digits_head (n / 10)
    refine ⟨c, rest ++ [digitChar (n % 10)], by rw [first, List.cons_append], digit, ?_⟩
    intro zero
    have whole := value_digits (n / 10)
    rw [first, alone zero, zero] at whole
    have small : value ['0'] = 0 := by decide
    omega
termination_by n
decreasing_by omega

theorem ne_of_isDigit {c d : Char} (digit : c.isDigit = true) (letter : d.isDigit = false) :
    d ≠ c := by
  rintro rfl
  cases digit.symm.trans letter

theorem hexValue?_hexDigit {d : Nat} (small : d < 16) :
    Json.hexValue? (.char (hexDigit d)) = some d := by
  revert d
  decide

end Numeral

/-- Whether no two letters that stand side by side are the halves of a surrogate pair. -/
def Letter.areApart : List Letter → Bool
  | a :: b :: rest => !(isHigh a.code && isLow b.code) && areApart (b :: rest)
  | _ => true

namespace Json

variable {rest : List Letter}

/-! ### Whole numbers -/

/-- What stands behind a value: nothing, or what separates values or closes the brackets around
    them. -/
inductive Closes : List Letter → Prop
  | nothing : Closes []
  | letter {c : Char} (closing : c = ',' ∨ c = ']' ∨ c = '}') (rest : List Letter) :
      Closes (.char c :: rest)

theorem skipSpace_of_closes (closes : Closes rest) : skipSpace rest = rest := by
  cases closes with
  | nothing => rfl
  | letter closing rest => rcases closing with rfl | rfl | rfl <;> rfl

theorem digitsAhead_of_closes (closes : Closes rest) : digitsAhead rest = [] := by
  cases closes with
  | nothing => rfl
  | letter closing rest => rcases closing with rfl | rfl | rfl <;> rfl

theorem fraction_of_closes (closes : Closes rest) : fraction rest = ([], rest) := by
  cases closes with
  | nothing => rfl
  | letter closing rest => rcases closing with rfl | rfl | rfl <;> rfl

theorem exponent_of_closes (closes : Closes rest) : exponent rest = (none, rest) := by
  cases closes with
  | nothing => rfl
  | letter closing rest => rcases closing with rfl | rfl | rfl <;> rfl

theorem digitsAhead_append {ds : List Char} (digits : ∀ c ∈ ds, c.isDigit = true)
    (closes : Closes rest) : digitsAhead (ds.map .char ++ rest) = ds := by
  induction ds with
  | nil => exact digitsAhead_of_closes closes
  | cons d ds ih =>
      simp only [List.map_cons, List.cons_append, digitsAhead, digits d List.mem_cons_self, if_true,
        ih fun c member => digits c (List.mem_cons_of_mem _ member)]

theorem leadingDigits_digits (n : Nat) (closes : Closes rest) :
    leadingDigits ((Numeral.digits n).map .char ++ rest) = Numeral.digits n := by
  obtain ⟨c, others, first, _, alone⟩ := Numeral.digits_head n
  by_cases zero : c = '0'
  · rw [first, alone zero, zero]
    rfl
  · have ahead := digitsAhead_append (Numeral.isDigit_of_mem_digits (n := n)) closes
    rw [first] at ahead ⊢
    simp only [List.map_cons, List.cons_append] at ahead ⊢
    rw [leadingDigits]
    · exact ahead
    · rintro _ same
      exact zero (Letter.char.inj (List.cons.inj same).1)

theorem magnitude_digits (bounds : Bounds) (negative : Bool) {n : Nat} (closes : Closes rest)
    (fits : (Numeral.digits n).length ≤ bounds.digits) :
    magnitude bounds negative ((Numeral.digits n).map .char ++ rest) =
      .ok (.int (if negative then -(n : Int) else n), rest) := by
  have behind : ((Numeral.digits n).map Letter.char ++ rest).drop (Numeral.digits n).length =
      rest := by
    rw [List.drop_left' (by rw [List.length_map])]
  simp only [magnitude, leadingDigits_digits n closes, behind, fraction_of_closes closes,
    exponent_of_closes closes, List.isEmpty_nil, Option.isNone_none, Bool.and_self, if_true,
    Numeral.value_digits]
  rw [if_neg (Nat.not_lt.mpr fits)]

/-- A whole number is read as it was written. -/
theorem number_ofInt {bounds : Bounds} (n : Int) (closes : Closes rest)
    (fits : (Numeral.ofInt n).length ≤ bounds.digits) :
    number bounds ((Numeral.ofInt n).map .char ++ rest) = .ok (.int n, rest) := by
  cases n with
  | ofNat n =>
      obtain ⟨c, others, first, digit, _⟩ := Numeral.digits_head n
      have read := magnitude_digits bounds false closes fits
      have leading := leadingDigits_digits n closes
      simp only [Numeral.ofInt] at fits ⊢
      rw [first] at read leading ⊢
      simp only [List.map_cons, List.cons_append] at read leading ⊢
      rw [number]
      · simp only [leading, List.isEmpty_cons, read]
        rfl
      · rintro _ same
        exact Numeral.ne_of_isDigit digit rfl (Letter.char.inj (List.cons.inj same).1).symm
  | negSucc n =>
      simp only [Numeral.ofInt, List.length_cons] at fits ⊢
      have read := magnitude_digits bounds true closes (Nat.le_of_succ_le fits)
      have some_digit : (Numeral.digits (n + 1)).isEmpty = false := by
        obtain ⟨c, others, first, _⟩ := Numeral.digits_head (n + 1)
        rw [first]
        rfl
      simp only [List.map_cons, List.cons_append, number, leadingDigits_digits _ closes, some_digit,
        read]
      rfl

/-! ### Escapes -/

/-- The digits of a 16-bit unit. -/
def unitLetters (n : Nat) : List Letter :=
  [.char (Numeral.hexDigit (n / 4096 % 16)), .char (Numeral.hexDigit (n / 256 % 16)),
    .char (Numeral.hexDigit (n / 16 % 16)), .char (Numeral.hexDigit (n % 16))]

theorem letters_escapedUnit (n : Nat) :
    (escapedUnit n).map Letter.char = .char '\\' :: .char 'u' :: unitLetters n := rfl

theorem unit?_unitLetters {n : Nat} (small : n < 0x10000) (rest : List Letter) :
    unit? (unitLetters n ++ rest) = some (n, rest) := by
  have digit (k : Nat) : hexValue? (.char (Numeral.hexDigit (k % 16))) = some (k % 16) :=
    Numeral.hexValue?_hexDigit (by omega)
  simp only [unitLetters, List.cons_append, List.nil_append, unit?, digit, Option.bind_eq_bind,
    Option.bind_some, Option.pure_def, Option.some.injEq, Prod.mk.injEq, and_true]
  omega

/-- Whether no escaped second half of a pair stands at the head of a text. -/
def Apart (rest : List Letter) : Prop :=
  ∀ more, rest = .char '\\' :: .char 'u' :: more →
    ∃ n after, unit? more = some (n, after) ∧ Letter.isLow n = false

variable {behind read : List Letter} {fuel : Nat}

theorem stringBody_unit {n : Nat} (small : n < 0x10000) (going : rest ≠ [])
    (apart : Letter.isHigh n = true → Apart rest) :
    stringBody behind (fuel + 1) read ((escapedUnit n).map .char ++ rest) =
      stringBody behind fuel (Letter.ofCode n :: read) rest := by
  obtain ⟨l, more, rfl⟩ := List.exists_cons_of_ne_nil going
  have unit := unit?_unitLetters small (l :: more)
  rw [letters_escapedUnit]
  simp only [unitLetters, List.cons_append, List.nil_append] at unit ⊢
  simp only [stringBody, unit]
  split
  · rename_i high same
    obtain ⟨k, after, second, other⟩ := apart high _ same
    have ahead : unit? ((l :: more).drop 2) = some (k, after) := by
      rw [same]
      exact second
    simp only [ahead, other, Bool.false_eq_true, if_false]
  · rfl

theorem stringBody_pair {high low : Nat} (first : Letter.isHigh high = true)
    (second : Letter.isLow low = true) (going : rest ≠ []) :
    stringBody behind (fuel + 1) read ((escapedUnit high ++ escapedUnit low).map .char ++ rest) =
      stringBody behind fuel (Letter.ofPair high low :: read) rest := by
  obtain ⟨l, more, rfl⟩ := List.exists_cons_of_ne_nil going
  simp only [Letter.isHigh, Letter.isLow, Bool.and_eq_true, decide_eq_true_eq] at first second
  have lower := unit?_unitLetters (n := low) (by omega) (l :: more)
  have upper := unit?_unitLetters (n := high) (by omega)
    ((escapedUnit low).map .char ++ l :: more)
  rw [List.map_append, List.append_assoc, letters_escapedUnit]
  rw [letters_escapedUnit] at upper ⊢
  simp only [unitLetters, List.cons_append, List.nil_append] at upper lower ⊢
  have isHigh : Letter.isHigh high = true := by simp [Letter.isHigh, first]
  have isLow : Letter.isLow low = true := by simp [Letter.isLow, second]
  simp only [stringBody, upper, isHigh, List.drop_succ_cons, List.drop_zero, lower, isLow, if_true]

/-! ### Strings -/

/-- How a letter may be spelled between quotes. -/
inductive Spelled : Letter → List Char → Prop
  | short {l : Letter} {e : Char} (named : shortEscape? (.char e) = some l) (other : e ≠ 'u') :
      Spelled l ['\\', e]
  | plain {c : Char} (noQuote : c ≠ '"') (noEscape : c ≠ '\\') (shown : 32 ≤ c.toNat)
      (ascii : c.toNat < 127) : Spelled (.char c) [c]
  | unit {l : Letter} (small : l.code < 0x10000) : Spelled l (escapedUnit l.code)
  | pair {high low : Nat} (first : Letter.isHigh high = true) (second : Letter.isLow low = true) :
      Spelled (.ofPair high low) (escapedUnit high ++ escapedUnit low)

theorem ofCode_code (l : Letter) : Letter.ofCode l.code = l := by
  cases l with
  | half offset => simp [Letter.ofCode, Letter.code]
  | char c =>
      have valid : c.toNat < 0xD800 ∨ 0xDFFF < c.toNat ∧ c.toNat < 0x110000 := c.valid
      have whole : ¬ ((Letter.char c).code - Letter.firstHalf < 0x800 ∧
          Letter.firstHalf ≤ (Letter.char c).code) := by
        simp only [Letter.code, Letter.firstHalf]
        omega
      rw [Letter.ofCode, dif_neg whole, Letter.code, Char.ofNat_toNat]

theorem spelled_escapedChar (c : Char) : Spelled (.char c) (escapedChar c) := by
  unfold escapedChar
  split
  · rename_i same
    exact .short (by rw [same]; rfl) (by decide)
  split
  · rename_i same
    exact .short (by rw [same]; rfl) (by decide)
  split
  · rename_i same
    exact .short (by rw [same]; rfl) (by decide)
  split
  · rename_i same
    exact .short (by rw [same]; rfl) (by decide)
  split
  · rename_i same
    exact .short (by rw [same]; rfl) (by decide)
  split
  · rename_i same
    rw [← Char.ofNat_toNat c, same]
    exact .short rfl (by decide)
  split
  · rename_i same
    rw [← Char.ofNat_toNat c, same]
    exact .short rfl (by decide)
  split
  · rename_i noQuote noEscape _ _ _ _ _ shown
    simp only [Bool.and_eq_true, decide_eq_true_eq] at shown
    exact .plain noQuote noEscape shown.1 shown.2
  split
  · rename_i small
    exact .unit (l := .char c) small
  · rename_i large
    have valid : c.toNat < 0xD800 ∨ 0xDFFF < c.toNat ∧ c.toNat < 0x110000 := c.valid
    have letter : Letter.ofPair (0xD800 + (c.toNat - 0x10000) / 0x400)
        (0xDC00 + (c.toNat - 0x10000) % 0x400) = .char c := by
      have code : 0x10000 + (0xD800 + (c.toNat - 0x10000) / 0x400 - 0xD800) * 0x400 +
          (0xDC00 + (c.toNat - 0x10000) % 0x400 - 0xDC00) = c.toNat := by omega
      rw [Letter.ofPair, code, Char.ofNat_toNat]
    rw [← letter]
    refine .pair ?_ ?_ <;>
      simp only [Letter.isHigh, Letter.isLow, Bool.and_eq_true, decide_eq_true_eq] <;> omega

/-- Every letter is spelled in one of these ways. -/
theorem spelled_escaped (l : Letter) : Spelled l (escaped l) := by
  cases l with
  | char c => exact spelled_escapedChar c
  | half offset =>
      refine .unit (l := .half offset) ?_
      simp only [Letter.code, Letter.firstHalf]
      omega

variable {l : Letter} {cs : List Char}

theorem stringBody_spelled (spelled : Spelled l cs) (going : rest ≠ [])
    (apart : Letter.isHigh l.code = true → Apart rest) :
    stringBody behind (fuel + 1) read (cs.map .char ++ rest) =
      stringBody behind fuel (l :: read) rest := by
  cases spelled with
  | short named other =>
      simp only [List.map_cons, List.map_nil, List.cons_append, List.nil_append]
      rw [stringBody]
      · simp only [named]
      · exact fun same => other (Letter.char.inj same)
  | plain noQuote noEscape shown ascii =>
      simp only [List.map_cons, List.map_nil, List.cons_append, List.nil_append]
      rw [stringBody]
      · exact if_neg (Nat.not_lt.mpr shown)
      · exact fun same => noQuote (Letter.char.inj same)
      · exact fun same _ => noEscape (Letter.char.inj same)
      · exact fun _ same _ => noEscape (Letter.char.inj same)
      · exact fun _ _ same _ => noEscape (Letter.char.inj same)
  | unit small =>
      rw [stringBody_unit small going apart, ofCode_code]
  | pair first second => exact stringBody_pair first second going

theorem apart_spelled (spelled : Spelled l cs) (single : Letter.isLow l.code = false)
    (rest : List Letter) : Apart (cs.map .char ++ rest) := by
  intro more same
  cases spelled with
  | short named other =>
      simp only [List.map_cons, List.map_nil, List.cons_append, List.nil_append, List.cons.injEq,
        Letter.char.injEq, true_and] at same
      exact absurd same.1 other
  | plain noQuote noEscape shown ascii =>
      simp only [List.map_cons, List.map_nil, List.cons_append, List.nil_append, List.cons.injEq,
        Letter.char.injEq] at same
      exact absurd same.1 noEscape
  | unit small =>
      rw [letters_escapedUnit] at same
      simp only [List.cons_append, List.cons.injEq, true_and] at same
      exact ⟨_, rest, same ▸ unit?_unitLetters small rest, single⟩
  | pair first second =>
      rw [List.map_append, List.append_assoc, letters_escapedUnit] at same
      simp only [List.cons_append, List.cons.injEq, true_and] at same
      simp only [Letter.isHigh, Bool.and_eq_true, decide_eq_true_eq] at first
      refine ⟨_, _, same ▸ unit?_unitLetters (by omega) _, ?_⟩
      simp only [Letter.isLow, Bool.and_eq_false_iff, decide_eq_false_iff_not]
      omega

/-- Between quotes, letters of which no two neighbours make a pair are read as they were written. -/
theorem stringBody_letters {ls : List Letter} (apart : Letter.areApart ls = true)
    (enough : ls.length < fuel) :
    stringBody behind fuel read ((ls.flatMap escaped).map .char ++ .char '"' :: rest) =
      .ok (⟨read.reverse ++ ls⟩, rest) := by
  induction ls generalizing fuel read with
  | nil =>
      obtain ⟨fuel, rfl⟩ := Nat.exists_eq_add_one_of_ne_zero (Nat.ne_of_gt enough)
      simp [stringBody]
  | cons l ls ih =>
      obtain ⟨fuel, rfl⟩ :=
        Nat.exists_eq_add_one_of_ne_zero (Nat.ne_of_gt (Nat.zero_lt_of_lt enough))
      have next : Letter.isHigh l.code = true →
          Apart ((ls.flatMap escaped).map .char ++ .char '"' :: rest) := by
        intro high
        cases ls with
        | nil => exact fun more same => by cases same
        | cons m ls =>
            have single : Letter.isLow m.code = false := by
              simpa [Letter.areApart, high] using (Bool.and_eq_true_iff.mp apart).1
            rw [List.flatMap_cons, List.map_append, List.append_assoc]
            exact apart_spelled (spelled_escaped m) single _
      have others : Letter.areApart ls = true := by
        cases ls with
        | nil => rfl
        | cons m ls => exact (Bool.and_eq_true_iff.mp apart).2
      rw [List.flatMap_cons, List.map_append, List.append_assoc,
        stringBody_spelled (spelled_escaped l) (by simp) next, ih others (by simpa using enough)]
      simp

theorem length_escaped_pos (l : Letter) : 0 < (escaped l).length := by
  have spelled := spelled_escaped l
  generalize escaped l = cs at spelled ⊢
  cases spelled <;> simp [escapedUnit]

theorem length_le_escaped (ls : List Letter) : ls.length ≤ (ls.flatMap escaped).length := by
  induction ls with
  | nil => exact Nat.le_refl 0
  | cons l ls ih =>
      have first := length_escaped_pos l
      simp only [List.flatMap_cons, List.length_append, List.length_cons]
      omega

/-- A text is read as it was written. -/
theorem stringRest_quoted {t : Text} (rest : List Letter)
    (proper : Letter.areApart t.letters = true) (enough : (quoted t).length ≤ fuel + 1) :
    ∃ after, (quoted t).map .char ++ rest = .char '"' :: after ∧
      stringRest fuel after = .ok (t, rest) := by
  refine ⟨(t.letters.flatMap escaped).map .char ++ .char '"' :: rest, by simp [quoted], ?_⟩
  have letters := length_le_escaped t.letters
  simp only [quoted, List.length_cons, List.length_append, List.length_nil] at enough
  exact stringBody_letters proper (by omega)

end Json

end TradingEngine
