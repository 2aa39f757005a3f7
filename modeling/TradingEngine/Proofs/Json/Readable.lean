import TradingEngine.Proofs.Json.RoundTrip

/-! # Values that are read

The plain values are those that stand for some text, apart from doubles. Between quotes the reader
joins the halves of a pair wherever it finds them side by side, and of a key that stands twice in an
object it keeps one. So whatever is read from a string without a double is plain.
-/

namespace TradingEngine

/-! ### Letters side by side -/

namespace Letter

theorem isHigh_char (c : Char) : isHigh (char c).code = false := by
  have valid : c.toNat < 0xD800 ∨ 0xDFFF < c.toNat ∧ c.toNat < 0x110000 := c.valid
  change isHigh c.toNat = false
  simp only [isHigh, Bool.and_eq_false_iff, decide_eq_false_iff_not]
  omega

theorem isLow_char (c : Char) : isLow (char c).code = false := by
  have valid : c.toNat < 0xD800 ∨ 0xDFFF < c.toNat ∧ c.toNat < 0x110000 := c.valid
  change isLow c.toNat = false
  simp only [isLow, Bool.and_eq_false_iff, decide_eq_false_iff_not]
  omega

theorem code_ofCode {n : Nat} (small : n < 0x10000) : (ofCode n).code = n := by
  unfold ofCode
  split
  · simp only [code]
    omega
  · rename_i other
    have valid : n.isValidChar := by
      simp only [firstHalf] at other
      simp only [Nat.isValidChar]
      omega
    rw [code, Char.ofNat, dif_pos valid]
    rfl

theorem areApart_concat {ls : List Letter} {l : Letter} (apart : areApart ls = true)
    (next : ∀ k ∈ ls.getLast?, isHigh k.code = true → isLow l.code = false) :
    areApart (ls ++ [l]) = true := by
  induction ls with
  | nil => rfl
  | cons a ls ih =>
      cases ls with
      | nil =>
          simp only [List.cons_append, List.nil_append, areApart, Bool.and_true]
          cases high : isHigh a.code with
          | false => rfl
          | true => simp [next a rfl high]
      | cons b ls =>
          simp only [areApart, Bool.and_eq_true, List.cons_append] at apart ⊢
          exact ⟨apart.1, ih apart.2 fun k last => next k (by simpa using last)⟩

end Letter

namespace Json

/-! ### Texts -/

theorem hexValue?_lt {l : Letter} {d : Nat} (h : hexValue? l = some d) : d < 16 := by
  have toNat_le {c e : Char} (le : c ≤ e) : c.toNat ≤ e.toNat := UInt32.le_iff_toNat_le.mp le
  unfold hexValue? at h
  split at h
  · rename_i c
    split at h
    · rename_i digit
      cases h
      have bounds := Char.isDigit_iff_toNat.mp digit
      simp only [Char.reduceToNat] at bounds ⊢
      omega
    split at h
    · rename_i lower
      cases h
      simp only [Bool.and_eq_true, decide_eq_true_eq] at lower
      have last := toNat_le lower.2
      simp only [Char.reduceToNat] at last ⊢
      omega
    split at h
    · rename_i upper
      cases h
      simp only [Bool.and_eq_true, decide_eq_true_eq] at upper
      have last := toNat_le upper.2
      simp only [Char.reduceToNat] at last ⊢
      omega
    · cases h
  · cases h

theorem of_unit? {ls rest : List Letter} {n : Nat} (h : unit? ls = some (n, rest)) :
    n < 0x10000 ∧ rest <:+ ls := by
  unfold unit? at h
  split at h
  · rename_i l₁ l₂ l₃ l₄ _
    simp only [Option.bind_eq_bind, Option.bind_eq_some_iff, Option.pure_def, Option.some.injEq,
      Prod.mk.injEq] at h
    obtain ⟨a, first, b, second, c, third, d, fourth, rfl, rfl⟩ := h
    have small₁ := hexValue?_lt first
    have small₂ := hexValue?_lt second
    have small₃ := hexValue?_lt third
    have small₄ := hexValue?_lt fourth
    exact ⟨by omega, [l₁, l₂, l₃, l₄], rfl⟩
  · cases h

theorem shortEscape?_char {l e : Letter} (h : shortEscape? l = some e) : ∃ c, e = .char c := by
  cases l with
  | half k => cases h
  | char c => grind [shortEscape?]

/-- Whether the letters that were read, the last one first, make no pair, nor the last of them with
    an escape that stands at the head of what is left. An escape with nothing behind it stands in a
    text that never closes. -/
structure Unpaired (read ls : List Letter) : Prop where
  apart : Letter.areApart read.reverse = true
  next : ∀ k ∈ read.head?, Letter.isHigh k.code = true → ∀ more n after,
    ls = .char '\\' :: .char 'u' :: more → 4 < more.length → unit? more = some (n, after) →
      Letter.isLow n = false

namespace Unpaired

variable {read ls : List Letter}

theorem start (ls : List Letter) : Unpaired [] ls where
  apart := rfl
  next _ last := by cases last

theorem char (h : Unpaired read ls) (c : Char) (rest : List Letter) :
    Unpaired (.char c :: read) rest where
  apart := by
    rw [List.reverse_cons]
    exact Letter.areApart_concat h.apart fun _ _ _ => Letter.isLow_char c
  next k last high := by
    cases last
    cases high.symm.trans (Letter.isHigh_char c)

theorem unit {more after : List Letter} {n : Nat}
    (h : Unpaired read (.char '\\' :: .char 'u' :: more)) (behind : 4 < more.length)
    (found : unit? more = some (n, after))
    (alone : Letter.isHigh n = true → ∀ others m last, after = .char '\\' :: .char 'u' :: others →
      4 < others.length → unit? others = some (m, last) → Letter.isLow m = false) :
    Unpaired (Letter.ofCode n :: read) after := by
  have code := Letter.code_ofCode (of_unit? found).1
  constructor
  · rw [List.reverse_cons]
    refine Letter.areApart_concat h.apart fun k last high => ?_
    rw [List.getLast?_reverse] at last
    rw [code]
    exact h.next k last high _ _ _ rfl behind found
  · intro k last high
    rw [List.head?_cons, Option.mem_some_iff] at last
    rw [← last, code] at high
    exact alone high

end Unpaired

/-- Whether these letters are all characters. -/
def Whole (ls : List Letter) : Prop := ∀ l ∈ ls, ∃ c, l = .char c

theorem Whole.of_suffix {ls rest : List Letter} (whole : Whole ls) (behind : rest <:+ ls) :
    Whole rest :=
  fun l member => whole l (behind.subset member)

theorem suffix_of_unit? {more after : List Letter} {n : Nat} (h : unit? more = some (n, after)) :
    after <:+ .char '\\' :: .char 'u' :: more :=
  (of_unit? h).2.trans ⟨[_, _], rfl⟩

theorem stringBody_apart {opened : List Letter} {fuel : Nat} {read ls rest : List Letter} {t : Text}
    (whole : Whole ls) (unpaired : Unpaired read ls)
    (h : stringBody opened fuel read ls = .ok (t, rest)) :
    Letter.areApart t.letters = true ∧ rest <:+ ls := by
  have onward {ls after : List Letter} (behind : after <:+ ls)
      (inner : Letter.areApart t.letters = true ∧ rest <:+ after) :
      Letter.areApart t.letters = true ∧ rest <:+ ls := ⟨inner.1, inner.2.trans behind⟩
  fun_induction stringBody opened fuel read ls with
  | case1 | case2 | case4 | case10 | case12 | case13 => cases h
  -- The closing quote.
  | case3 =>
      cases h
      exact ⟨unpaired.apart, List.suffix_cons _ _⟩
  | case5 _ _ _ _ _ _ _ _ unread =>
      rw [unread] at h
      cases h
  | case6 =>
      rename_i high unread found
      simp only [found, high, unread] at h
      cases h
  -- Two escapes that make a pair are one character.
  | case7 =>
      rename_i high _ after low second found ih
      simp only [found, high, second, low, if_true] at h
      have behind := ((of_unit? second).2.trans (List.drop_suffix 2 _)).trans
        (suffix_of_unit? found)
      exact onward behind (ih (whole.of_suffix behind) (unpaired.char _ _) h)
  -- A first half before another escape, which is no second half.
  | case8 =>
      rename_i high m after other second found ih
      simp only [found, high, second, other] at h
      have behind := suffix_of_unit? found
      refine onward behind (ih (whole.of_suffix behind) (unpaired.unit (by simp) found ?_) h)
      rintro _ others k last ⟨⟩ _ named
      rw [List.drop_succ_cons, List.drop_succ_cons, List.drop_zero, named] at second
      cases second
      exact Bool.eq_false_iff.mpr other
  -- Any other unit. No escape that could be read stands behind a first half.
  | case9 =>
      rename_i n after single found ih
      have behind := suffix_of_unit? found
      rw [found] at h
      dsimp only at h
      split at h
      · rename_i high
        exact (single _ _ _ _ _ _ high rfl).elim
      · refine onward behind (ih (whole.of_suffix behind) (unpaired.unit (by simp) found ?_) h)
        intro high others k last same long named
        match others, long with
        | _ :: _ :: _ :: _ :: _ :: _, _ => exact (single _ _ _ _ _ _ high same).elim
  -- An escape of one letter.
  | case11 =>
      rename_i l more _ _ named ih
      obtain ⟨c, rfl⟩ := shortEscape?_char named
      have behind : more <:+ .char '\\' :: l :: more := ⟨[_, _], rfl⟩
      exact onward behind (ih (whole.of_suffix behind) (unpaired.char c _) h)
  -- A letter that stands for itself.
  | case14 =>
      rename_i l more _ _ _ _ _ ih
      obtain ⟨c, rfl⟩ := whole l List.mem_cons_self
      have behind := List.suffix_cons (.char c) more
      exact onward behind (ih (whole.of_suffix behind) (unpaired.char c _) h)

theorem stringRest_apart {fuel : Nat} {ls rest : List Letter} {t : Text} (whole : Whole ls)
    (h : stringRest fuel ls = .ok (t, rest)) : Letter.areApart t.letters = true ∧ rest <:+ ls :=
  stringBody_apart whole (.start ls) h

/-! ### Values -/

/-- Whether a double stands somewhere in a value. -/
inductive HoldsReal : Json → Prop
  | here (x : Float) : HoldsReal (.real x)
  | item {xs : List Json} {x : Json} : x ∈ xs → HoldsReal x → HoldsReal (.list xs)
  | field {fs : Fields} {f : Text × Json} : f ∈ fs → HoldsReal f.2 → HoldsReal (.record fs)

theorem HoldsReal.not_plain {v : Json} (h : HoldsReal v) : v.isPlain = false := by
  induction h with
  | here x => rfl
  | item member _ ih =>
      refine Bool.eq_false_iff.mpr fun plain => ?_
      cases ih.symm.trans (allPlain_iff.mp plain _ member)
  | field member _ ih =>
      refine Bool.eq_false_iff.mpr fun plain => ?_
      cases ih.symm.trans ((fieldsPlain_iff.mp plain).2 _ member).2

/-- Whether nothing but a double keeps a value from being plain. -/
def Orderly (v : Json) : Prop := HoldsReal v ∨ v.isPlain = true

/-- Whether nothing but a double keeps the object with these fields from being plain. -/
structure OrderlyFields (fs : Fields) : Prop where
  distinct : (fs.map (·.1)).Nodup
  each : ∀ f ∈ fs, Letter.areApart f.1.letters = true ∧ Orderly f.2

theorem orderly_list {xs : List Json} (each : ∀ x ∈ xs, Orderly x) : Orderly (.list xs) := by
  by_cases real : ∃ x ∈ xs, HoldsReal x
  · obtain ⟨x, member, holds⟩ := real
    exact .inl (.item member holds)
  · refine .inr (allPlain_iff.mpr fun x member => ?_)
    exact (each x member).resolve_left fun holds => real ⟨x, member, holds⟩

theorem OrderlyFields.record {fs : Fields} (h : OrderlyFields fs) : Orderly (.record fs) := by
  by_cases real : ∃ f ∈ fs, HoldsReal f.2
  · obtain ⟨f, member, holds⟩ := real
    exact .inl (.field member holds)
  · refine .inr (fieldsPlain_iff.mpr ⟨h.distinct, fun f member => ?_⟩)
    obtain ⟨apart, value⟩ := h.each f member
    exact ⟨apart, value.resolve_left fun holds => real ⟨f, member, holds⟩⟩

theorem OrderlyFields.nil : OrderlyFields [] := ⟨List.nodup_nil, by simp⟩

theorem OrderlyFields.put {fs : Fields} {key : Text} {v : Json} (h : OrderlyFields fs)
    (apart : Letter.areApart key.letters = true) (value : Orderly v) :
    OrderlyFields (put key v fs) where
  distinct := nodup_put h.distinct key v
  each f member := by
    rcases mem_put member with rfl | before
    · exact ⟨apart, value⟩
    · exact h.each f before

theorem fraction_suffix (ls : List Letter) : (fraction ls).2 <:+ ls := by
  unfold fraction
  split
  · dsimp only
    split
    · exact List.suffix_refl _
    · exact (List.drop_suffix _ _).trans (List.suffix_cons _ _)
  · exact List.suffix_refl _

theorem exponent_suffix (ls : List Letter) : (exponent ls).2 <:+ ls := by
  unfold exponent
  split
  · rename_i l more
    have unsigned (negative : Bool) {tail : List Letter} (behind : tail <:+ l :: more) :
        (if (digitsAhead tail).isEmpty then (none, l :: more)
          else (some (negative, Numeral.value (digitsAhead tail)),
            tail.drop (digitsAhead tail).length)).2 <:+ l :: more := by
      split
      · exact List.suffix_refl _
      · exact (List.drop_suffix _ _).trans behind
    split
    · dsimp only
      split
      · exact unsigned false ⟨[l, .char '+'], rfl⟩
      · exact unsigned true ⟨[l, .char '-'], rfl⟩
      · exact unsigned false (List.suffix_cons l _)
    · exact List.suffix_refl _
  · exact List.suffix_refl _

theorem magnitude_orderly {bounds : Bounds} {negative : Bool} {ls rest : List Letter} {v : Json}
    (h : magnitude bounds negative ls = .ok (v, rest)) : Orderly v ∧ rest <:+ ls := by
  have behind := (exponent_suffix _).trans ((fraction_suffix _).trans
    (List.drop_suffix (leadingDigits ls).length ls))
  unfold magnitude at h
  dsimp only at h
  split at h
  · split at h
    · cases h
    · cases h
      exact ⟨.inr rfl, behind⟩
  · cases h
    exact ⟨.inl (.here _), behind⟩

theorem number_orderly {bounds : Bounds} {ls rest : List Letter} {v : Json}
    (h : number bounds ls = .ok (v, rest)) : Orderly v ∧ rest <:+ ls := by
  have unsigned {negative : Bool} {tail : List Letter} (behind : tail <:+ ls)
      (h : (if (leadingDigits tail).isEmpty then refuseAt ls else magnitude bounds negative tail) =
        .ok (v, rest)) : Orderly v ∧ rest <:+ ls := by
    split at h
    · cases h
    · obtain ⟨orderly, left⟩ := magnitude_orderly h
      exact ⟨orderly, left.trans behind⟩
  unfold number at h
  dsimp only at h
  split at h
  · exact unsigned (List.suffix_cons _ _) h
  · exact unsigned (List.suffix_refl _) h

theorem named?_orderly {ls rest : List Letter} {v : Json} (h : named? ls = some (v, rest)) :
    Orderly v ∧ rest <:+ ls := by
  obtain ⟨⟨name, w⟩, known, found⟩ := List.exists_of_findSome?_eq_some h
  dsimp only at found
  split at found
  · cases found
    refine ⟨?_, List.drop_suffix _ _⟩
    simp only [List.mem_cons, Prod.mk.injEq, List.not_mem_nil, or_false] at known
    rcases known with ⟨_, rfl⟩ | ⟨_, rfl⟩ | ⟨_, rfl⟩ | ⟨_, rfl⟩ | ⟨_, rfl⟩ | ⟨_, rfl⟩
    · exact .inr rfl
    · exact .inr rfl
    · exact .inr rfl
    · exact .inl (.here _)
    · exact .inl (.here _)
    · exact .inl (.here _)
  · cases found

/-! ### Lists and objects -/

theorem skipSpace_suffix (ls : List Letter) : skipSpace ls <:+ ls := List.dropWhile_suffix _

theorem suffix_of_skipSpace {ls more : List Letter} {l : Letter} (h : skipSpace ls = l :: more) :
    more <:+ ls :=
  (List.suffix_cons l more).trans (h ▸ skipSpace_suffix ls)

/-- Whether all that is read from characters is orderly and stands at their head. -/
def Keeps (read : List Letter → Except Unread (Json × List Letter)) : Prop :=
  ∀ ⦃ls rest : List Letter⦄ ⦃v : Json⦄, Whole ls → read ls = .ok (v, rest) →
    Orderly v ∧ rest <:+ ls

theorem Keeps.onward {read : List Letter → Except Unread (Json × List Letter)} (keeps : Keeps read)
    {ls more rest : List Letter} {v : Json} (whole : Whole ls) (behind : more <:+ ls)
    (h : read more = .ok (v, rest)) : Orderly v ∧ rest <:+ ls := by
  obtain ⟨orderly, left⟩ := keeps (whole.of_suffix behind) h
  exact ⟨orderly, left.trans behind⟩

/-- Whether all that is read in so many steps is orderly. -/
structure ReadsOrderly (bounds : Bounds) (fuel : Nat) : Prop where
  value (room : Nat) : Keeps (value bounds fuel room)
  members (room : Nat) {fs : Fields} (before : OrderlyFields fs) :
    Keeps (members bounds fuel room fs)
  elements (room : Nat) {xs : List Json} (before : ∀ x ∈ xs, Orderly x) :
    Keeps (elements bounds fuel room xs)

namespace ReadsOrderly

variable {bounds : Bounds} {fuel : Nat}

theorem value_step (h : ReadsOrderly bounds fuel) (room : Nat) :
    Keeps (Json.value bounds (fuel + 1) room) := by
  intro ls rest v whole read
  unfold Json.value at read
  split at read
  · rename_i more
    obtain ⟨⟨t, left⟩, quoted, ended⟩ := Except.of_bind_ok read
    cases ended
    have behind : more <:+ .char '"' :: more := List.suffix_cons _ more
    obtain ⟨apart, after⟩ := stringRest_apart (whole.of_suffix behind) quoted
    exact ⟨.inr apart, after.trans behind⟩
  · rename_i more
    have behind : skipSpace more <:+ .char '{' :: more :=
      (skipSpace_suffix more).trans (List.suffix_cons _ more)
    split at read
    · cases read
    split at read
    · rename_i closed
      cases read
      exact ⟨.inr rfl, (suffix_of_skipSpace closed).trans (List.suffix_cons _ more)⟩
    · exact (h.members _ .nil).onward whole behind read
  · rename_i more
    have behind : skipSpace more <:+ .char '[' :: more :=
      (skipSpace_suffix more).trans (List.suffix_cons _ more)
    split at read
    · cases read
    split at read
    · rename_i closed
      cases read
      exact ⟨.inr rfl, (suffix_of_skipSpace closed).trans (List.suffix_cons _ more)⟩
    · exact (h.elements _ (by simp)).onward whole behind read
  · split at read
    · rename_i named
      cases read
      exact named?_orderly named
    · exact number_orderly read

theorem members_step (h : ReadsOrderly bounds fuel) (room : Nat) {fs : Fields}
    (before : OrderlyFields fs) : Keeps (Json.members bounds (fuel + 1) room fs) := by
  intro ls rest v whole read
  unfold Json.members at read
  split at read
  · rename_i opened
    obtain ⟨⟨key, left⟩, quoted, read⟩ := Except.of_bind_ok read
    have behind : opened <:+ .char '"' :: opened := List.suffix_cons _ opened
    obtain ⟨apart, after⟩ := stringRest_apart (whole.of_suffix behind) quoted
    dsimp only at read
    split at read
    · rename_i more colon
      obtain ⟨⟨w, left⟩, valued, read⟩ := Except.of_bind_ok read
      have spaced := (skipSpace_suffix more).trans
        ((suffix_of_skipSpace colon).trans (after.trans behind))
      obtain ⟨orderly, ended⟩ := (h.value room).onward whole spaced valued
      have fields := before.put apart orderly
      dsimp only at read
      split at read
      · rename_i closed
        cases read
        exact ⟨fields.record, (suffix_of_skipSpace closed).trans ended⟩
      · rename_i others comma
        exact (h.members room fields).onward whole
          ((skipSpace_suffix others).trans ((suffix_of_skipSpace comma).trans ended)) read
      · cases read
    · cases read
  · cases read

theorem elements_step (h : ReadsOrderly bounds fuel) (room : Nat) {xs : List Json}
    (before : ∀ x ∈ xs, Orderly x) : Keeps (Json.elements bounds (fuel + 1) room xs) := by
  intro ls rest v whole read
  unfold Json.elements at read
  obtain ⟨⟨x, left⟩, first, read⟩ := Except.of_bind_ok read
  obtain ⟨orderly, behind⟩ := h.value room whole first
  have items : ∀ y ∈ x :: xs, Orderly y := List.forall_mem_cons.mpr ⟨orderly, before⟩
  dsimp only at read
  split at read
  · rename_i closed
    cases read
    exact ⟨orderly_list fun y member => items y (List.mem_reverse.mp member),
      (suffix_of_skipSpace closed).trans behind⟩
  · rename_i others comma
    exact (h.elements room items).onward whole
      ((skipSpace_suffix others).trans ((suffix_of_skipSpace comma).trans behind)) read
  · cases read

end ReadsOrderly

theorem readsOrderly (bounds : Bounds) (fuel : Nat) : ReadsOrderly bounds fuel := by
  induction fuel with
  | zero =>
      constructor
      · intro room ls rest v _ read
        cases read
      · intro room fs _ ls rest v _ read
        cases read
      · intro room xs _ ls rest v _ read
        cases read
  | succ fuel ih => exact ⟨ih.value_step, ih.members_step, ih.elements_step⟩

/-- Whatever is read from a string is plain, unless a double stands in it. -/
theorem orderly_of_parse? {s : String} {v : Json} (h : parse? s = some v) : Orderly v := by
  have whole : Whole (Text.ofString s).letters := by
    intro l member
    obtain ⟨c, _, rfl⟩ := List.mem_map.mp member
    exact ⟨c, rfl⟩
  obtain ⟨⟨w, rest⟩, read, ended⟩ := Except.of_bind_ok (Except.of_toOption h)
  obtain ⟨orderly, _⟩ :=
    ((readsOrderly _ _).value _).onward whole (skipSpace_suffix _) read
  dsimp only at ended
  split at ended
  · cases ended
    exact orderly
  · cases ended

/-- The value of some text, in which no double stands. -/
structure Exact (v : Json) : Prop where
  noReal : ¬ v.HoldsReal
  spelled : ∃ s, parse? s = some v

/-- The plain values are those that are read from strings, apart from those with doubles. -/
theorem exact_iff_isPlain {v : Json} : v.Exact ↔ v.isPlain = true := by
  constructor
  · rintro ⟨noReal, s, read⟩
    exact (orderly_of_parse? read).resolve_left noReal
  · intro plain
    refine ⟨fun holds => ?_, _, parse?_render plain⟩
    cases holds.not_plain.symm.trans plain

end Json

end TradingEngine
