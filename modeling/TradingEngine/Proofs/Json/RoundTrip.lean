import TradingEngine.Proofs.Except
import TradingEngine.Proofs.Json.Fields
import TradingEngine.Proofs.Json.Tokens

/-! # Values that are read back

The text of a value is read as that value, if the value is a plain one: it holds no double, no
object of it has one key twice, and no text of it holds both halves of a surrogate pair side by
side. All plain values are read back, however deep they are nested and whatever their texts hold.
-/

namespace TradingEngine.Json

mutual

/-- Whether a value is plain: without doubles, without a key that is given twice, and with texts
    that hold no two halves of a pair side by side. -/
def isPlain : Json → Bool
  | .real _ => false
  | .text t => Letter.areApart t.letters
  | .list xs => allPlain xs
  | .record fs => fieldsPlain fs
  | _ => true

/-- Whether all these values are plain. -/
def allPlain : List Json → Bool
  | [] => true
  | x :: xs => isPlain x && allPlain xs

/-- Whether these fields are those of a plain object. -/
def fieldsPlain : Fields → Bool
  | [] => true
  | (k, v) :: fs =>
    Letter.areApart k.letters && fs.all (·.1 != k) && isPlain v && fieldsPlain fs

end

theorem allPlain_iff {xs : List Json} : allPlain xs = true ↔ ∀ x ∈ xs, x.isPlain = true := by
  induction xs with
  | nil => simp [allPlain]
  | cons x xs ih => simp [allPlain, ih]

theorem fieldsPlain_iff {fs : Fields} : fieldsPlain fs = true ↔ (fs.map (·.1)).Nodup ∧
    ∀ f ∈ fs, Letter.areApart f.1.letters = true ∧ f.2.isPlain = true := by
  induction fs with
  | nil => simp [fieldsPlain]
  | cons f fs ih =>
      obtain ⟨k, v⟩ := f
      have fresh : fs.all (·.1 != k) = true ↔ k ∉ fs.map (·.1) := by
        simp only [List.all_eq_true, bne_iff_ne, List.mem_map, not_exists, not_and]
      simp only [fieldsPlain, Bool.and_eq_true, fresh, ih, List.map_cons, List.nodup_cons,
        List.forall_mem_cons]
      grind

/-- What holds of every value if it holds of a list whenever it holds of its items, and of an object
    whenever it holds of the values of its fields. -/
@[elab_as_elim]
theorem inductionOn {P : Json → Prop} (v : Json) (null : P .null) (bool : ∀ b, P (.bool b))
    (int : ∀ n, P (.int n)) (real : ∀ x, P (.real x)) (text : ∀ t, P (.text t))
    (list : ∀ xs, (∀ x ∈ xs, P x) → P (.list xs))
    (record : ∀ fs, (∀ f ∈ fs, P f.2) → P (.record fs)) : P v := by
  match v with
  | .null => exact null
  | .bool b => exact bool b
  | .int n => exact int n
  | .real x => exact real x
  | .text t => exact text t
  | .list xs =>
      exact list xs fun x _ => inductionOn x null bool int real text list record
  | .record fs =>
      exact record fs fun f _ => inductionOn f.2 null bool int real text list record
termination_by v
decreasing_by
  · rename_i member
    have smaller := List.sizeOf_lt_of_mem member
    simp only [Json.list.sizeOf_spec]
    omega
  · rename_i member
    have smaller := List.sizeOf_lt_of_mem member
    obtain ⟨k, v⟩ := f
    simp only [Prod.mk.sizeOf_spec] at smaller
    simp only [Json.record.sizeOf_spec]
    omega

/-! ### What may stand ahead -/

variable {bounds : Bounds} {fuel room : Nat} {rest : List Letter}

theorem skipSpace_of_not_space {l : Letter} (solid : isSpace l = false) :
    skipSpace (l :: rest) = l :: rest := by
  simp only [skipSpace, List.dropWhile_cons, solid, Bool.false_eq_true, if_false]

/-- No value is spelled by nothing, and none begins with a blank or with a closing bracket. -/
theorem render_head (v : Json) (plain : v.isPlain = true) :
    ∃ c cs, v.render = c :: cs ∧ isSpace (.char c) = false ∧ c ≠ ']' := by
  cases v with
  | null => exact ⟨_, _, rfl, rfl, by decide⟩
  | bool b => cases b <;> exact ⟨_, _, rfl, rfl, by decide⟩
  | int n =>
      cases n with
      | ofNat n =>
          obtain ⟨c, cs, first, digit, _⟩ := Numeral.digits_head n
          have other (d : Char) (letter : d.isDigit = false) := Numeral.ne_of_isDigit digit letter
          refine ⟨c, cs, first, ?_, (other _ rfl).symm⟩
          simp [isSpace, Letter.is, Letter.char?, (other _ _).symm]
      | negSucc n => exact ⟨_, _, rfl, rfl, by decide⟩
  | real x => cases plain
  | text t => exact ⟨_, _, rfl, rfl, by decide⟩
  | list xs => cases xs <;> exact ⟨_, _, rfl, rfl, by decide⟩
  | record fs =>
      cases fs with
      | nil => exact ⟨_, _, rfl, rfl, by decide⟩
      | cons f fs =>
          obtain ⟨k, v⟩ := f
          exact ⟨_, _, rfl, rfl, by decide⟩

theorem named?_ofInt (n : Int) (rest : List Letter) :
    named? ((Numeral.ofInt n).map .char ++ rest) = none := by
  cases n with
  | ofNat n =>
      obtain ⟨c, cs, first, digit, _⟩ := Numeral.digits_head n
      rw [Numeral.ofInt, first]
      simp [named?, Text.ofString, Text.ofChars, Numeral.ne_of_isDigit digit]
  | negSucc n =>
      obtain ⟨c, cs, first, digit, _⟩ := Numeral.digits_head (n + 1)
      rw [Numeral.ofInt, first]
      simp [named?, Text.ofString, Text.ofChars, Numeral.ne_of_isDigit digit]

/-- Whether a reader gets through any text of this many letters. -/
structure Admits (bounds : Bounds) (fuel room letters : Nat) : Prop where
  steps : letters ≤ fuel
  nested : letters ≤ room
  short : letters ≤ bounds.digits

namespace Admits

variable {letters fewer : Nat}

theorem fuel_pos (h : Admits bounds fuel room letters) (some : 0 < letters) :
    ∃ left, fuel = left + 1 :=
  Nat.exists_eq_add_one_of_ne_zero (Nat.ne_of_gt (Nat.lt_of_lt_of_le some h.steps))

theorem room_ne_zero (h : Admits bounds fuel room letters) (some : 0 < letters) : room ≠ 0 :=
  Nat.ne_of_gt (Nat.lt_of_lt_of_le some h.nested)

theorem of_le (h : Admits bounds fuel room letters) (less : fewer ≤ letters) :
    Admits bounds fuel room fewer :=
  ⟨Nat.le_trans less h.steps, Nat.le_trans less h.nested, Nat.le_trans less h.short⟩

theorem step (h : Admits bounds (fuel + 1) room letters) (less : fewer < letters) :
    Admits bounds fuel room fewer :=
  ⟨by have := h.steps; omega, by have := h.nested; omega, by have := h.short; omega⟩

theorem nest (h : Admits bounds (fuel + 1) room letters) (less : fewer < letters) :
    Admits bounds fuel (room - 1) fewer :=
  ⟨by have := h.steps; omega, by have := h.nested; omega, by have := h.short; omega⟩

end Admits

/-- Whether a value is read as it was written, whatever closes it. -/
def Reads (v : Json) : Prop :=
  ∀ bounds fuel room rest, Admits bounds fuel room v.render.length → Closes rest →
    value bounds fuel room (v.render.map .char ++ rest) = .ok (v, rest)

theorem closes_renderItems (xs : List Json) (rest : List Letter) :
    Closes ((renderItems xs).map .char ++ rest) := by
  cases xs with
  | nil => exact .letter (.inr (.inl rfl)) _
  | cons x xs => exact .letter (.inl rfl) _

theorem closes_renderFields (fs : Fields) (rest : List Letter) :
    Closes ((renderFields fs).map .char ++ rest) := by
  cases fs with
  | nil => exact .letter (.inr (.inr rfl)) _
  | cons f fs =>
      obtain ⟨k, v⟩ := f
      exact .letter (.inl rfl) _

theorem skipSpace_render {v : Json} (plain : v.isPlain = true) :
    skipSpace (v.render.map .char ++ rest) = v.render.map .char ++ rest := by
  obtain ⟨c, cs, first, solid, _⟩ := render_head v plain
  rw [first]
  exact skipSpace_of_not_space solid

/-! ### Lists and objects -/

theorem skipSpace_blank (ls : List Letter) : skipSpace (.char ' ' :: ls) = skipSpace ls := rfl

/-- Items that are read as they were written make a list that is. -/
theorem elements_render {x : Json} {xs read : List Json}
    (each : ∀ y ∈ x :: xs, y.isPlain = true ∧ Reads y)
    (admits : Admits bounds fuel room (x.render ++ renderItems xs).length) :
    elements bounds fuel room read ((x.render ++ renderItems xs).map .char ++ rest) =
      .ok (.list (read.reverse ++ x :: xs), rest) := by
  induction xs generalizing x fuel read with
  | nil =>
      obtain ⟨_, reads⟩ := each x List.mem_cons_self
      simp only [List.length_append] at admits
      have closed : 0 < (renderItems []).length := Nat.zero_lt_one
      obtain ⟨fuel, rfl⟩ := admits.fuel_pos (by omega)
      have first := reads bounds fuel room _ (admits.step (by omega))
        (closes_renderItems [] rest)
      rw [List.map_append, List.append_assoc, elements, first, Except.ok_bind]
      dsimp only
      rw [skipSpace_of_closes (closes_renderItems [] _)]
      simp [renderItems]
      rfl
  | cons y ys ih =>
      obtain ⟨_, reads⟩ := each x List.mem_cons_self
      obtain ⟨plain, _⟩ := each y (by simp)
      simp only [List.length_append] at admits
      have closed : (renderItems (y :: ys)).length =
          2 + (y.render ++ renderItems ys).length := by
        simp [renderItems]
        omega
      obtain ⟨fuel, rfl⟩ := admits.fuel_pos (by omega)
      have first := reads bounds fuel room _ (admits.step (by omega))
        (closes_renderItems (y :: ys) rest)
      have others : elements bounds fuel room (x :: read)
          ((y.render ++ renderItems ys).map .char ++ rest) =
            .ok (.list ((x :: read).reverse ++ y :: ys), rest) :=
        ih (fun z member => each z (List.mem_cons_of_mem _ member)) (admits.step (by omega))
      rw [List.map_append, List.append_assoc, elements, first, Except.ok_bind]
      dsimp only
      rw [skipSpace_of_closes (closes_renderItems (y :: ys) _)]
      simp only [renderItems, List.map_cons, List.cons_append, List.map_append, List.append_assoc,
        skipSpace_blank, skipSpace_render plain] at others ⊢
      rw [others]
      simp

/-- A field as it stands in an object. -/
def fieldText (k : Text) (v : Json) : List Char := quoted k ++ ':' :: ' ' :: v.render

theorem members_field {k : Text} {v : Json} {read : Fields}
    (apart : Letter.areApart k.letters = true) (plain : v.isPlain = true) (reads : Reads v)
    (admits : Admits bounds (fuel + 1) room ((fieldText k v).length + 1)) :
    Closes rest → members bounds (fuel + 1) room read ((fieldText k v).map .char ++ rest) =
      match rest with
      | .char '}' :: after => .ok (.record (put k v read), after)
      | .char ',' :: more => members bounds fuel room (put k v read) (skipSpace more)
      | other => refuseAt other := by
  intro closes
  simp only [fieldText, List.length_append, List.length_cons] at admits
  obtain ⟨after, opened, named⟩ := stringRest_quoted
    (.char ':' :: .char ' ' :: (v.render.map .char ++ rest)) apart
    (show (quoted k).length ≤ fuel + 1 by have := admits.steps; omega)
  have valued := reads bounds fuel room rest (admits.step (by omega)) closes
  have colon (ls : List Letter) : skipSpace (.char ':' :: ls) = .char ':' :: ls := rfl
  simp only [fieldText, List.map_append, List.map_cons, List.append_assoc, List.cons_append, opened,
    members, named, Except.ok_bind, colon, skipSpace_blank, skipSpace_render plain, valued,
    skipSpace_of_closes closes]
  rfl

/-- Fields that are read as they were written make an object that is. -/
theorem members_render {k : Text} {v : Json} {fs read : Fields}
    (each : ∀ f ∈ (k, v) :: fs, Letter.areApart f.1.letters = true ∧ f.2.isPlain = true ∧ Reads f.2)
    (admits : Admits bounds fuel room (fieldText k v ++ renderFields fs).length) :
    members bounds fuel room read ((fieldText k v ++ renderFields fs).map .char ++ rest) =
      .ok (.record (putAll read ((k, v) :: fs)), rest) := by
  induction fs generalizing k v fuel read with
  | nil =>
      obtain ⟨apart, plain, reads⟩ := each (k, v) List.mem_cons_self
      rw [List.length_append] at admits
      have closed : (renderFields []).length = 1 := rfl
      obtain ⟨fuel, rfl⟩ := admits.fuel_pos (by omega)
      rw [closed] at admits
      rw [List.map_append, List.append_assoc,
        members_field apart plain reads admits (closes_renderFields [] _)]
      rfl
  | cons f fs ih =>
      obtain ⟨apart, plain, reads⟩ := each (k, v) List.mem_cons_self
      obtain ⟨k', v'⟩ := f
      have spread : renderFields ((k', v') :: fs) =
          ',' :: ' ' :: (fieldText k' v' ++ renderFields fs) := by
        simp [renderFields, fieldText]
      rw [spread] at admits ⊢
      rw [List.length_append, List.length_cons, List.length_cons] at admits
      obtain ⟨fuel, rfl⟩ := admits.fuel_pos (by omega)
      have shorter : Admits bounds (fuel + 1) room ((fieldText k v).length + 1) :=
        admits.of_le (by omega)
      have others : members bounds fuel room (put k v read)
          ((fieldText k' v' ++ renderFields fs).map .char ++ rest) =
            .ok (.record (putAll (put k v read) ((k', v') :: fs)), rest) :=
        ih (fun z member => each z (List.mem_cons_of_mem _ member)) (admits.step (by omega))
      rw [List.map_append, List.append_assoc, List.map_cons, List.cons_append,
        members_field (k := k) apart plain reads shorter (.letter (.inl rfl) _)]
      simp only [List.map_append, List.map_cons, List.cons_append, skipSpace_blank] at others ⊢
      have opened (ls : List Letter) : skipSpace (.char '"' :: ls) = .char '"' :: ls := rfl
      simp only [fieldText, quoted, List.map_append, List.map_cons, List.cons_append, opened]
        at others ⊢
      exact others

/-! ### Values -/

/-- A value that is written as a name or as a number. -/
theorem value_unopened {c : Char} {ls : List Letter} (noQuote : c ≠ '"') (noBrace : c ≠ '{')
    (noBracket : c ≠ '[') :
    value bounds (fuel + 1) room (.char c :: ls) = match named? (.char c :: ls) with
      | some found => .ok found
      | none => number bounds (.char c :: ls) := by
  unfold value
  split
  · rename_i same
    exact absurd (Letter.char.inj (List.cons.inj same).1) noQuote
  · rename_i same
    exact absurd (Letter.char.inj (List.cons.inj same).1) noBrace
  · rename_i same
    exact absurd (Letter.char.inj (List.cons.inj same).1) noBracket
  · rfl

theorem render_pos {v : Json} (plain : v.isPlain = true) : 0 < v.render.length := by
  obtain ⟨c, cs, first, _⟩ := render_head v plain
  simp [first]

/-- A numeral starts like no text, record or list. -/
theorem ofInt_unopened (n : Int) :
    ∃ c cs, Numeral.ofInt n = c :: cs ∧ c ≠ '"' ∧ c ≠ '{' ∧ c ≠ '[' := by
  cases n with
  | ofNat n =>
      obtain ⟨c, cs, first, digit, _⟩ := Numeral.digits_head n
      have other (d : Char) (letter : d.isDigit = false) :=
        (Numeral.ne_of_isDigit digit letter).symm
      exact ⟨c, cs, first, other _ rfl, other _ rfl, other _ rfl⟩
  | negSucc n => exact ⟨_, _, rfl, by decide⟩

theorem reads_int (n : Int) : Reads (.int n) := by
  intro bounds fuel room rest admits closes
  obtain ⟨fuel, rfl⟩ := admits.fuel_pos (render_pos rfl)
  have unnamed := named?_ofInt n rest
  have read := number_ofInt n closes admits.short
  obtain ⟨c, cs, first, noQuote, noBrace, noBracket⟩ := ofInt_unopened n
  rw [render]
  rw [first, List.map_cons, List.cons_append] at unnamed read ⊢
  rw [value_unopened noQuote noBrace noBracket, unnamed]
  exact read

theorem reads_text {t : Text} (plain : (text t).isPlain = true) : Reads (.text t) := by
  intro bounds fuel room rest admits closes
  obtain ⟨fuel, rfl⟩ := admits.fuel_pos (render_pos plain)
  obtain ⟨after, opened, read⟩ := stringRest_quoted rest plain admits.steps
  rw [render, opened, value, read]
  rfl

/-- A list is read as it was written when its elements are. -/
theorem reads_list {xs : List Json} (plain : (list xs).isPlain = true)
    (reads : ∀ x ∈ xs, Reads x) : Reads (.list xs) := by
  intro bounds fuel room rest admits closes
  obtain ⟨fuel, rfl⟩ := admits.fuel_pos (render_pos plain)
  have enter : room ≠ 0 := admits.room_ne_zero (render_pos plain)
  have each := allPlain_iff.mp plain
  cases xs with
  | nil =>
      simp only [render, List.map_cons, List.cons_append, value, if_neg enter]
      rfl
  | cons x xs =>
      have inner : elements bounds fuel (room - 1) []
          ((x.render ++ renderItems xs).map .char ++ rest) = .ok (.list (x :: xs), rest) :=
        elements_render (fun y member => ⟨each y member, reads y member⟩)
          (admits.nest (by simp [render]))
      obtain ⟨c, cs, first, solid, other⟩ := render_head x (each x List.mem_cons_self)
      simp only [render, first, List.map_append, List.map_cons, List.cons_append,
        List.append_assoc] at inner ⊢
      rw [value, if_neg enter, skipSpace_of_not_space solid]
      split
      · rename_i same
        exact absurd (Letter.char.inj (List.cons.inj same).1) other
      · exact inner

/-- A record is read as it was written when the values of its fields are. -/
theorem reads_record {fs : Fields} (plain : (record fs).isPlain = true)
    (reads : ∀ f ∈ fs, Reads f.2) : Reads (.record fs) := by
  intro bounds fuel room rest admits closes
  obtain ⟨fuel, rfl⟩ := admits.fuel_pos (render_pos plain)
  have enter : room ≠ 0 := admits.room_ne_zero (render_pos plain)
  obtain ⟨distinct, each⟩ := fieldsPlain_iff.mp plain
  cases fs with
  | nil =>
      simp only [render, List.map_cons, List.cons_append, value, if_neg enter]
      rfl
  | cons f fs =>
      obtain ⟨k, v⟩ := f
      have spread : (Json.record ((k, v) :: fs)).render =
          '{' :: (fieldText k v ++ renderFields fs) := by
        simp [render, fieldText]
      rw [spread] at admits ⊢
      have inner : members bounds fuel (room - 1) []
          ((fieldText k v ++ renderFields fs).map .char ++ rest) =
            .ok (.record (putAll [] ((k, v) :: fs)), rest) :=
        members_render (fun f member => ⟨(each f member).1, (each f member).2, reads f member⟩)
          (admits.nest (by simp))
      rw [putAll_nil distinct] at inner
      have opened (ls : List Letter) : skipSpace (.char '"' :: ls) = .char '"' :: ls := rfl
      rw [List.map_cons, List.cons_append, value, if_neg enter]
      simp only [fieldText, quoted, List.map_append, List.map_cons, List.cons_append, opened]
        at inner ⊢
      exact inner

/-- Every plain value is read as it was written. -/
theorem reads_of_plain {v : Json} (plain : v.isPlain = true) : Reads v := by
  induction v using inductionOn with
  | null =>
      intro bounds fuel room rest admits closes
      obtain ⟨fuel, rfl⟩ := admits.fuel_pos (render_pos plain)
      exact value_unopened (by decide) (by decide) (by decide)
  | bool b =>
      intro bounds fuel room rest admits closes
      obtain ⟨fuel, rfl⟩ := admits.fuel_pos (render_pos plain)
      cases b <;> exact value_unopened (by decide) (by decide) (by decide)
  | int n => exact reads_int n
  | real x => cases plain
  | text t => exact reads_text plain
  | list xs ih =>
      exact reads_list plain fun x member => ih x member (allPlain_iff.mp plain x member)
  | record fs ih =>
      exact reads_record plain fun f member =>
        ih f member ((fieldsPlain_iff.mp plain).2 f member).2

/-- The text of a plain value is the text of this value alone. -/
theorem parse?_render {v : Json} (plain : v.isPlain = true) :
    parse? (String.ofList v.render) = some v := by
  have letters : (Text.ofString (String.ofList v.render)).letters = v.render.map .char ++ [] := by
    simp [Text.ofString, Text.ofChars]
  have admits : Admits ⟨(String.ofList v.render).length, (String.ofList v.render).length⟩
      (2 * v.render.length + 2) (String.ofList v.render).length v.render.length :=
    ⟨by omega, by simp, by simp⟩
  have read := reads_of_plain plain _ _ _ [] admits .nothing
  simp only [parse?, parseText, letters, List.length_append, List.length_map, List.length_nil,
    Nat.add_zero, skipSpace_render plain, read, Except.ok_bind]
  rfl

end TradingEngine.Json
