import TradingEngine.Journal.Basic

/-! # What the journal tells

Every block that a run dispatches is journalled under one event of its own. `Journal.dispatches`
reads them back in order, so that a run can be followed by the journal it leaves. No other event
adds to them, and neither a tally nor the binding of a field does.
-/

namespace TradingEngine

namespace Json

theorem lookup_put (key k : Text) (v : Json) (fs : Fields) :
    lookup key (put k v fs) = if k = key then some v else lookup key fs := by
  induction fs with
  | nil => by_cases h : k = key <;> simp [put, lookup, h]
  | cons head tail ih =>
      obtain ⟨name, value⟩ := head
      simp only [lookup] at ih
      by_cases same : name = k
      · subst same
        by_cases h : name = key <;> simp [put, lookup, h]
      · by_cases here : name = key
        · subst here
          simp [put, lookup, same, Ne.symm same]
        · simpa [put, lookup, same, here] using ih

/-- Fields that are left out by their names do not matter for any other name. -/
theorem lookup_filter (key : Text) (kept : Text → Bool) (h : kept key = true) (fs : Fields) :
    lookup key (fs.filter fun field => kept field.1) = lookup key fs := by
  simp only [lookup, List.find?_filter]
  congr 2
  funext field
  by_cases same : field.1 = key <;> simp [same, h]

end Json

/-- The event under which the dispatch of a block is journalled. -/
def Entry.dispatchEvent : Text := "BLOCK_DISPATCH"

/-- The block that an entry reports as dispatched, if it reports one. -/
def Entry.dispatched? (e : Entry) : Option Text :=
  if e.event.text? = some dispatchEvent then (Json.lookup "block_id" e.fields).bind Json.text?
  else none

namespace Journal

/-- The blocks that are journalled as dispatched, one id for each dispatch. -/
def dispatches (j : Journal) : List Text := j.entries.toList.filterMap Entry.dispatched?

@[simp] theorem dispatches_count (tally : Tally) (j : Journal) :
    (j.count tally).dispatches = j.dispatches := rfl

/-- What an entry adds to a journal that takes it. -/
theorem dispatches_add {entry : Entry} {j after : Journal} (h : j.add entry = .ok after) :
    after.bound = j.bound ∧ after.threshold = j.threshold ∧
      after.dispatches = j.dispatches ++ entry.dispatched?.toList := by
  simp only [add] at h
  split at h
  · cases h
  · cases h
    refine ⟨rfl, rfl, ?_⟩
    have kept : Entry.dispatched? { entry with
        fields := entry.fields.filter fun field => !ownFields.contains field.1 } =
          entry.dispatched? := by
      simp only [Entry.dispatched?]
      rw [Json.lookup_filter _ (fun name => !ownFields.contains name) (by decide)]
    simp only [dispatches, Array.toList_push, List.filterMap_append, List.append_cancel_left_eq]
    simp only [List.filterMap_cons, List.filterMap_nil, kept]
    cases entry.dispatched? <;> rfl

theorem bound_write {level : Level} {event : Text} {fields : Fields} {j after : Journal}
    (h : j.write level event fields = .ok after) : after.bound = j.bound :=
  (dispatches_add h).1

theorem threshold_write {level : Level} {event : Text} {fields : Fields} {j after : Journal}
    (h : j.write level event fields = .ok after) : after.threshold = j.threshold :=
  (dispatches_add h).2.1

theorem add_again {entry : Entry} {j after : Journal} (h : j.add entry = .ok after)
    (other : Journal) : ∃ again, other.add entry = .ok again := by
  simp only [add] at h ⊢
  split at h
  · cases h
  · rename_i writable
    rw [if_neg writable]
    exact ⟨_, rfl⟩

/-- Whether an entry is taken depends on the bound fields and on what is shown. -/
theorem write_again {level : Level} {event : Text} {fields : Fields} {j other after : Journal}
    (bound : other.bound = j.bound) (threshold : other.threshold = j.threshold)
    (h : j.write level event fields = .ok after) :
    ∃ again, other.write level event fields = .ok again := by
  simp only [write, note, shows] at h ⊢
  rw [bound, threshold]
  exact add_again h other

theorem dispatches_write_other {level : Level} {event : Text} {fields : Fields}
    {j after : Journal} (h : j.write level event fields = .ok after)
    (other : event ≠ Entry.dispatchEvent) : after.dispatches = j.dispatches := by
  rw [(dispatches_add h).2.2]
  simp [Entry.dispatched?, Json.text?, other]

/-- A dispatched block is journalled by its id, whatever fields are bound. -/
theorem dispatches_write_dispatch {level : Level} {block : Text} {type : Json}
    {j after : Journal}
    (h : j.write level Entry.dispatchEvent
      [("block_id", .text block), ("block_type", type)] = .ok after) :
    after.dispatches = j.dispatches ++ [block] := by
  have found : Json.lookup "block_id"
      (Json.putAll j.bound [("block_id", .text block), ("block_type", type)]) =
        some (.text block) := by
    simp only [Json.putAll, List.foldl_cons, List.foldl_nil, Json.lookup_put]
    rw [if_neg (by decide), if_pos True.intro]
  rw [(dispatches_add h).2.2]
  simp [Entry.dispatched?, Json.text?, found]

end Journal

end TradingEngine
