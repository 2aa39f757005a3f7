import TradingEngine.Table

/-! # Looking up what was written

A written entry is found under its key and under no other, a new key goes last, and in a table
without repeated keys every row is found. Rows without repeated keys that are written one after the
other make up the table that they are.
-/

namespace TradingEngine.Table

variable {κ α : Type} [DecidableEq κ]

@[simp] theorem get?_nil (key : κ) : get? key ([] : List (κ × α)) = none := rfl

theorem get?_cons (key k : κ) (v : α) (table : List (κ × α)) :
    get? key ((k, v) :: table) = if k = key then some v else get? key table := by
  by_cases h : k = key <;> simp [get?, h]

theorem get?_put (key k : κ) (v : α) (table : List (κ × α)) :
    get? key (put k v table) = if k = key then some v else get? key table := by
  induction table with
  | nil => rw [put, get?_cons]
  | cons head tail ih =>
      obtain ⟨name, value⟩ := head
      by_cases same : name = k
      · subst same
        simp only [put, if_true, get?_cons]
        split <;> rfl
      · simp only [put, same, if_false, get?_cons, ih]
        by_cases here : name = key
        · subst here
          simp [Ne.symm same]
        · simp [here]

@[simp] theorem get?_put_self (key : κ) (v : α) (table : List (κ × α)) :
    get? key (put key v table) = some v := by
  rw [get?_put, if_pos rfl]

theorem get?_put_of_ne {key k : κ} (ne : k ≠ key) (v : α) (table : List (κ × α)) :
    get? key (put k v table) = get? key table := by
  rw [get?_put, if_neg ne]

theorem get?_eq_none {key : κ} {table : List (κ × α)} (fresh : key ∉ table.map (·.1)) :
    get? key table = none := by
  induction table with
  | nil => rfl
  | cons head tail ih =>
      simp only [List.map_cons, List.mem_cons, not_or] at fresh
      rw [get?_cons, if_neg (Ne.symm fresh.1), ih fresh.2]

theorem get?_of_mem {key : κ} {v : α} {table : List (κ × α)}
    (unique : (table.map (·.1)).Nodup) (row : (key, v) ∈ table) : get? key table = some v := by
  induction table with
  | nil => simp at row
  | cons head tail ih =>
      simp only [List.map_cons, List.nodup_cons] at unique
      rw [get?_cons]
      rcases List.mem_cons.mp row with rfl | later
      · rw [if_pos rfl]
      · have ne : head.1 ≠ key := by
          intro same
          exact unique.1 (same ▸ List.mem_map_of_mem later)
        rw [if_neg ne, ih unique.2 later]

theorem mem_of_get? {key : κ} {v : α} {table : List (κ × α)} (found : get? key table = some v) :
    (key, v) ∈ table := by
  obtain ⟨row, first, rfl⟩ := Option.map_eq_some_iff.mp found
  have same := List.find?_some first
  rw [← of_decide_eq_true same]
  exact List.mem_of_find?_eq_some first

theorem mem_put {key : κ} {v : α} {table : List (κ × α)} {row : κ × α}
    (member : row ∈ put key v table) : row = (key, v) ∨ row ∈ table := by
  induction table with
  | nil => exact .inl (List.mem_singleton.mp member)
  | cons head tail ih =>
      rw [put] at member
      split at member
      · rcases List.mem_cons.mp member with rfl | later
        · exact .inl rfl
        · exact .inr (List.mem_cons_of_mem _ later)
      · rcases List.mem_cons.mp member with rfl | later
        · exact .inr List.mem_cons_self
        · exact (ih later).imp_right (List.mem_cons_of_mem _)

theorem keys_put {key : κ} {table : List (κ × α)} (named : key ∈ table.map (·.1)) (v : α) :
    (put key v table).map (·.1) = table.map (·.1) := by
  induction table with
  | nil => cases named
  | cons head tail ih =>
      rw [put]
      split
      · rename_i same
        rw [List.map_cons, List.map_cons, same]
      · rename_i other
        rw [List.map_cons, List.map_cons,
          ih ((List.mem_cons.mp named).resolve_left (Ne.symm other))]

theorem nodup_put {table : List (κ × α)} (unique : (table.map (·.1)).Nodup) (key : κ) (v : α) :
    ((put key v table).map (·.1)).Nodup := by
  induction table with
  | nil => simp [put]
  | cons head tail ih =>
      simp only [List.map_cons, List.nodup_cons] at unique
      rw [put]
      split
      · rename_i same
        exact List.nodup_cons.mpr ⟨same ▸ unique.1, unique.2⟩
      · rename_i other
        refine List.nodup_cons.mpr ⟨fun there => ?_, ih unique.2⟩
        obtain ⟨row, member, named⟩ := List.mem_map.mp there
        rcases mem_put member with rfl | here
        · exact other named.symm
        · exact unique.1 (List.mem_map.mpr ⟨row, here, named⟩)

theorem put_put (key : κ) (v w : α) (table : List (κ × α)) :
    put key w (put key v table) = put key w table := by
  induction table with
  | nil => simp [put]
  | cons head tail ih =>
      by_cases same : head.1 = key
      · simp [put, same]
      · simp only [put, same, if_false, ih]

theorem put_of_get? {key : κ} {v : α} {table : List (κ × α)} (found : get? key table = some v) :
    put key v table = table := by
  induction table with
  | nil => cases found
  | cons head tail ih =>
      obtain ⟨k, old⟩ := head
      rw [get?_cons] at found
      by_cases same : k = key
      · rw [if_pos same] at found
        cases found
        simp only [put, same, if_true]
      · rw [if_neg same] at found
        simp only [put, same, if_false, ih found]

theorem put_append {key : κ} {first : List (κ × α)} (fresh : key ∉ first.map (·.1)) (v : α)
    (second : List (κ × α)) : put key v (first ++ second) = first ++ put key v second := by
  induction first with
  | nil => rfl
  | cons head tail ih =>
      simp only [List.map_cons, List.mem_cons, not_or] at fresh
      simp only [List.cons_append, put, if_neg (Ne.symm fresh.1), ih fresh.2]

/-- Entries for new keys that differ, written one after the other, go last in their order. -/
theorem foldlM_put {m : Type → Type} [Monad m] [LawfulMonad m] {β : Type}
    (key : α → κ) (f : α → m β) (xs : List α) (table : List (κ × β))
    (unique : (table.map (·.1) ++ xs.map key).Nodup) :
    xs.foldlM (fun t x => do return put (key x) (← f x) t) table =
      (do return table ++ (← xs.mapM fun x => do return (key x, ← f x))) := by
  induction xs generalizing table with
  | nil => simp
  | cons x xs ih =>
      have fresh : key x ∉ table.map (·.1) := by
        intro there
        exact (List.nodup_append.mp unique).2.2 _ there _ List.mem_cons_self rfl
      have written (v : β) : put (key x) v table = table ++ [(key x, v)] := by
        have last := put_append fresh v []
        rwa [List.append_nil] at last
      have rest (v : β) := ih (table ++ [(key x, v)]) (by simpa using unique)
      simp only [List.foldlM_cons, List.mapM_cons, bind_assoc, pure_bind, written, rest,
        List.append_assoc, List.singleton_append]

theorem foldl_put (rows : List (κ × α)) (unique : (rows.map (·.1)).Nodup) :
    rows.foldl (fun table row => put row.1 row.2 table) [] = rows := by
  have folded := foldlM_put (m := Id) (·.1) (fun row : κ × α => pure row.2) rows []
    (by simpa using unique)
  simpa [List.idRun_foldlM] using congrArg Id.run folded

end TradingEngine.Table
