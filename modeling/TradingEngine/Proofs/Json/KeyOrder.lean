import TradingEngine.Proofs.Json.RoundTrip

/-! # The order of keys

Objects are written with their keys in order, at every level. Two values that differ in nothing but
the order of their keys have therefore one text, and two plain values that have one text differ in
nothing else.
-/

namespace TradingEngine

/-! ### Texts in order -/

namespace Text

theorem code_injective {l m : Letter} (same : l.code = m.code) : l = m := by
  rw [← Json.ofCode_code l, same, Json.ofCode_code]

theorem eq_of_order {a b : Text} (same : a.order b = .eq) : a = b := by
  obtain ⟨ls⟩ := a
  obtain ⟨ms⟩ := b
  have codes : ls.map Letter.code = ms.map Letter.code := Std.LawfulEqOrd.eq_of_compare same
  exact congrArg Text.mk ((List.map_inj_right fun _ _ => code_injective).mp codes)

theorem order_trans {a b c : Text} (first : a.order b = .lt) (second : b.order c = .lt) :
    a.order c = .lt := by
  unfold order at *
  exact Std.TransCmp.lt_trans first second

theorem order_lt_of_ne {a b : Text} (other : a ≠ b) (notBefore : a.order b ≠ .lt) :
    b.order a = .lt := by
  cases ordered : a.order b with
  | lt => exact absurd ordered notBefore
  | eq => exact absurd (eq_of_order ordered) other
  | gt =>
      unfold order at *
      exact Std.OrientedCmp.lt_of_gt ordered

theorem order_asymm {a b : Text} (first : a.order b = .lt) (second : b.order a = .lt) : False := by
  unfold order at *
  cases first.symm.trans (Std.OrientedCmp.gt_of_lt second)

end Text

namespace Json

/-! ### Values that differ in the order of their keys -/

/-- Two values that differ in nothing but the order in which the keys of their objects stand. -/
inductive Reordered : Json → Json → Prop
  | refl (v : Json) : Reordered v v
  | trans {a b c : Json} : Reordered a b → Reordered b c → Reordered a c
  | keys {fs gs : Fields} : fs.Perm gs → Reordered (.record fs) (.record gs)
  | item (before after : List Json) {x y : Json} :
      Reordered x y → Reordered (.list (before ++ x :: after)) (.list (before ++ y :: after))
  | field (before after : Fields) (k : Text) {v w : Json} : Reordered v w →
      Reordered (.record (before ++ (k, v) :: after)) (.record (before ++ (k, w) :: after))

namespace Reordered

variable {a b v w : Json}

theorem symm (h : Reordered a b) : Reordered b a := by
  induction h with
  | refl v => exact .refl v
  | trans _ _ ih ih' => exact .trans ih' ih
  | keys perm => exact .keys perm.symm
  | item before after _ ih => exact .item before after ih
  | field before after k _ ih => exact .field before after k ih

/-- Items that are reordered one by one. -/
theorem items {xs : List Json} {f : Json → Json} (each : ∀ x ∈ xs, Reordered x (f x)) :
    Reordered (.list xs) (.list (xs.map f)) := by
  have from_ (done : List Json) : Reordered (.list (done ++ xs)) (.list (done ++ xs.map f)) := by
    induction xs generalizing done with
    | nil => exact .refl _
    | cons x xs ih =>
        have rest := ih (fun y member => each y (List.mem_cons_of_mem _ member)) (done ++ [f x])
        rw [List.append_assoc, List.append_assoc] at rest
        exact .trans (.item done xs (each x List.mem_cons_self)) rest
  exact from_ []

/-- Fields whose values are reordered one by one. -/
theorem fields {fs : Fields} {f : Json → Json}
    (each : ∀ field ∈ fs, Reordered field.2 (f field.2)) :
    Reordered (.record fs) (.record (fs.map fun field => (field.1, f field.2))) := by
  have from_ (done : Fields) : Reordered (.record (done ++ fs))
      (.record (done ++ fs.map fun field => (field.1, f field.2))) := by
    induction fs generalizing done with
    | nil => exact .refl _
    | cons g fs ih =>
        obtain ⟨k, v⟩ := g
        have rest := ih (fun g member => each g (List.mem_cons_of_mem _ member))
          (done ++ [(k, f v)])
        rw [List.append_assoc, List.append_assoc] at rest
        exact .trans (.field done fs k (each (k, v) List.mem_cons_self)) rest
  exact from_ []

/-- A value is plain in any order of its keys. -/
theorem isPlain_iff (h : Reordered a b) : a.isPlain = true ↔ b.isPlain = true := by
  induction h with
  | refl v => exact Iff.rfl
  | trans _ _ ih ih' => exact ih.trans ih'
  | keys perm =>
      simp only [isPlain, fieldsPlain_iff, (perm.map _).nodup_iff, perm.mem_iff]
  | item before after _ ih =>
      simp only [isPlain, allPlain_iff, List.forall_mem_append, List.forall_mem_cons, ih]
  | field before after k _ ih =>
      simp only [isPlain, fieldsPlain_iff, List.forall_mem_append, List.forall_mem_cons, ih,
        List.map_append, List.map_cons]

end Reordered

/-! ### Fields in order -/

/-- Whether the keys of these fields stand in order. -/
def InOrder (fs : Fields) : Prop := fs.Pairwise fun f g => f.1.order g.1 = .lt

/-- Fields put in order one after the other. -/
def ordered (fs : Fields) : Fields := fs.foldr (fun f rest => insertField f.1 f.2 rest) []

theorem insertField_perm (k : Text) (v : Json) (fs : Fields) :
    (insertField k v fs).Perm ((k, v) :: fs) := by
  induction fs with
  | nil => exact .refl _
  | cons f fs ih =>
      obtain ⟨key, w⟩ := f
      rw [insertField]
      split
      · exact .refl _
      · exact (ih.cons _).trans (.swap _ _ _)

theorem ordered_perm (fs : Fields) : (ordered fs).Perm fs := by
  induction fs with
  | nil => exact .refl _
  | cons f fs ih => exact (insertField_perm _ _ _).trans (ih.cons _)

theorem insertField_inOrder {k : Text} {fs : Fields} (v : Json) (fresh : k ∉ fs.map (·.1))
    (h : InOrder fs) : InOrder (insertField k v fs) := by
  induction fs with
  | nil => exact List.pairwise_singleton _ _
  | cons f fs ih =>
      obtain ⟨key, w⟩ := f
      obtain ⟨first, rest⟩ := List.pairwise_cons.mp h
      simp only [List.map_cons, List.mem_cons, not_or] at fresh
      rw [insertField]
      split
      · rename_i before
        rw [beq_iff_eq] at before
        refine List.pairwise_cons.mpr ⟨fun g member => ?_, h⟩
        rcases List.mem_cons.mp member with rfl | member
        · exact before
        · exact Text.order_trans before (first g member)
      · rename_i notBefore
        rw [beq_iff_eq] at notBefore
        refine List.pairwise_cons.mpr ⟨fun g member => ?_, ih fresh.2 rest⟩
        rcases List.mem_cons.mp ((insertField_perm k v fs).mem_iff.mp member) with rfl | member
        · exact Text.order_lt_of_ne fresh.1 notBefore
        · exact first g member

theorem ordered_inOrder {fs : Fields} (distinct : (fs.map (·.1)).Nodup) : InOrder (ordered fs) := by
  induction fs with
  | nil => exact List.Pairwise.nil
  | cons f fs ih =>
      rw [List.map_cons, List.nodup_cons] at distinct
      have fresh : f.1 ∉ (ordered fs).map (·.1) := by
        rw [((ordered_perm fs).map _).mem_iff]
        exact distinct.1
      exact insertField_inOrder f.2 fresh (ih distinct.2)

/-- There is one order of distinct keys. -/
theorem ordered_eq_of_perm {fs gs : Fields} (distinct : (fs.map (·.1)).Nodup) (perm : fs.Perm gs) :
    ordered fs = ordered gs :=
  List.Perm.eq_of_pairwise (fun _ _ _ _ lt gt => (Text.order_asymm lt gt).elim)
    (ordered_inOrder distinct) (ordered_inOrder ((perm.map _).nodup_iff.mp distinct))
    ((ordered_perm fs).trans (perm.trans (ordered_perm gs).symm))

theorem sortedItems_eq (xs : List Json) : sortedItems xs = xs.map sorted := by
  induction xs with
  | nil => rfl
  | cons x xs ih => rw [sortedItems, ih, List.map_cons]

theorem sortedFields_eq (fs : Fields) :
    sortedFields fs = ordered (fs.map fun f => (f.1, f.2.sorted)) := by
  induction fs with
  | nil => rfl
  | cons f fs ih =>
      obtain ⟨k, v⟩ := f
      rw [sortedFields, ih]
      rfl

/-- Sorting the keys of a value reorders it. -/
theorem reordered_sorted (v : Json) : Reordered v v.sorted := by
  induction v using inductionOn with
  | null => exact .refl _
  | bool b => exact .refl _
  | int n => exact .refl _
  | real x => exact .refl _
  | text t => exact .refl _
  | list xs ih =>
      rw [sorted, sortedItems_eq]
      exact .items ih
  | record fs ih =>
      rw [sorted, sortedFields_eq]
      exact .trans (.fields ih) (.keys (ordered_perm _).symm)

/-- Plain values that differ in the order of their keys are the same once they are sorted. -/
theorem sorted_eq_of_reordered {a b : Json} (h : Reordered a b) (plain : a.isPlain = true) :
    a.sorted = b.sorted := by
  induction h with
  | refl v => rfl
  | trans first _ ih ih' => exact (ih plain).trans (ih' (first.isPlain_iff.mp plain))
  | keys perm =>
      have distinct := (fieldsPlain_iff.mp plain).1
      rw [sorted, sorted, sortedFields_eq, sortedFields_eq]
      congr 1
      refine ordered_eq_of_perm ?_ (perm.map _)
      rw [List.map_map]
      exact distinct
  | @item before after x y _ ih =>
      have plain := allPlain_iff.mp plain x (by simp)
      simp only [sorted, sortedItems_eq, List.map_append, List.map_cons, ih plain]
  | @field before after k v w _ ih =>
      have plain := ((fieldsPlain_iff.mp plain).2 (k, v) (by simp)).2
      simp only [sorted, sortedFields_eq, List.map_append, List.map_cons, ih plain]

theorem isPlain_sorted {v : Json} : v.sorted.isPlain = true ↔ v.isPlain = true :=
  (reordered_sorted v).isPlain_iff.symm

/-- The canonical text of a plain value is read as the value with its keys in order. -/
theorem parse?_canonical {v : Json} (plain : v.isPlain = true) :
    parse? v.canonical = some v.sorted :=
  parse?_render (isPlain_sorted.mpr plain)

/-- Plain values have one canonical text exactly if they differ only in the order of their keys. -/
theorem canonical_eq_iff {v w : Json} (plain : v.isPlain = true) (plain' : w.isPlain = true) :
    v.canonical = w.canonical ↔ Reordered v w := by
  constructor
  · intro same
    have read := parse?_canonical plain
    rw [same, parse?_canonical plain', Option.some.injEq] at read
    exact .trans (reordered_sorted v) (read ▸ (reordered_sorted w).symm)
  · intro h
    rw [canonical, canonical, sorted_eq_of_reordered h plain]

end Json

end TradingEngine
