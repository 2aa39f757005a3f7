import TradingEngine.Failure.Basic

/-! # Computations that may fail

A computation that comes to its end went through each of its links, so it is opened link by link.
-/

namespace TradingEngine.Except

variable {ε α β : Type}

theorem ok_bind (a : α) (next : α → Except ε β) : Except.ok a >>= next = next a := rfl

theorem mapError_ok {ε' : Type} (f : ε → ε') (a : α) : (Except.ok a).mapError f = .ok a := rfl

theorem toOption_ok (a : α) : (Except.ok a : Except ε α).toOption = some a := rfl

theorem of_bind_ok {r : Except ε α} {next : α → Except ε β} {b : β}
    (h : r >>= next = .ok b) : ∃ a, r = .ok a ∧ next a = .ok b := by
  cases r with
  | ok a => exact ⟨a, rfl, h⟩
  | error e => cases h

theorem of_toOption {r : Except ε α} {a : α} (h : r.toOption = some a) : r = .ok a := by
  cases r with
  | ok b => cases h; rfl
  | error e => cases h

/-- Where every element was judged, each has its judgement among the results. -/
theorem of_mapM_ok {f : α → Except ε β} {xs : List α} {ys : List β}
    (h : xs.mapM f = .ok ys) : ∀ x ∈ xs, ∃ y ∈ ys, f x = .ok y := by
  induction xs generalizing ys with
  | nil => simp
  | cons head tail ih =>
      rw [List.mapM_cons] at h
      obtain ⟨y, first, h⟩ := of_bind_ok h
      obtain ⟨rest, later, h⟩ := of_bind_ok h
      cases h
      intro x member
      rcases List.mem_cons.mp member with rfl | member
      · exact ⟨y, List.mem_cons_self, first⟩
      · obtain ⟨z, among, judged⟩ := ih later x member
        exact ⟨z, List.mem_cons_of_mem _ among, judged⟩

/-- A filter whose test never fails. -/
theorem filterM_ok (keep : α → Bool) (xs : List α) :
    xs.filterM (fun a => (.ok (keep a) : Except ε Bool)) = .ok (xs.filter keep) := by
  have gather (kept : List α) : xs.filterAuxM (fun a => (.ok (keep a) : Except ε Bool)) kept =
      .ok ((xs.filter keep).reverse ++ kept) := by
    induction xs generalizing kept with
    | nil => rfl
    | cons x xs ih =>
        simp only [List.filterAuxM, ok_bind, ih, List.filter_cons]
        cases keep x <;> simp
  simp only [List.filterM, gather, ok_bind, List.append_nil, List.reverse_reverse]
  rfl

theorem filterMapM_ok {f : α → Except ε (Option β)} {g : α → Option β} {xs : List α}
    (each : ∀ x ∈ xs, f x = .ok (g x)) :
    xs.filterMapM f = .ok (xs.filterMap g) := by
  induction xs with
  | nil => rfl
  | cons x xs ih =>
      obtain ⟨first, others⟩ := List.forall_mem_cons.mp each
      rw [List.filterMapM_cons, first, ok_bind, ih others, List.filterMap_cons]
      cases g x <;> rfl

/-- One element that fails is enough, and it is an element that fails with which a list ends. -/
theorem filterMapM_error {f : α → Except ε (Option β)} {x : α} {e : ε} {xs : List α}
    (member : x ∈ xs) (failed : f x = .error e) :
    ∃ y ∈ xs, ∃ e, f y = .error e ∧ xs.filterMapM f = .error e := by
  induction xs with
  | nil => cases member
  | cons head tail ih =>
      rw [List.filterMapM_cons]
      cases first : f head with
      | error e => exact ⟨head, List.mem_cons_self, e, first, rfl⟩
      | ok found =>
          rcases List.mem_cons.mp member with rfl | later
          · rw [failed] at first
            cases first
          · obtain ⟨y, among, e, fails, ends⟩ := ih later
            refine ⟨y, List.mem_cons_of_mem _ among, e, fails, ?_⟩
            rw [ok_bind, ends]
            cases found <;> rfl

end TradingEngine.Except
