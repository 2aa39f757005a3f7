import TradingEngine.Json.Value
import TradingEngine.Proofs.Table

/-! # The fields of an object

The fields of an object are a table of their values, so what is known of written tables holds of
written objects.
-/

namespace TradingEngine.Json

theorem put_eq_table (key : Text) (v : Json) (fs : Fields) : put key v fs = Table.put key v fs := by
  induction fs with
  | nil => rfl
  | cons head tail ih => rw [put, Table.put, ih]

theorem mem_put {key : Text} {v : Json} {fs : Fields} {field : Text × Json}
    (member : field ∈ put key v fs) : field = (key, v) ∨ field ∈ fs := by
  rw [put_eq_table] at member
  exact Table.mem_put member

theorem mem_putAll {base additions : Fields} {field : Text × Json}
    (member : field ∈ putAll base additions) : field ∈ base ∨ field ∈ additions := by
  induction additions generalizing base with
  | nil => exact .inl member
  | cons head tail ih =>
      rcases ih member with written | later
      · rcases mem_put written with rfl | here
        · exact .inr List.mem_cons_self
        · exact .inl here
      · exact .inr (List.mem_cons_of_mem _ later)

/-- A key that is written does not stand twice. -/
theorem nodup_put {fs : Fields} (distinct : (fs.map (·.1)).Nodup) (key : Text) (v : Json) :
    ((put key v fs).map (·.1)).Nodup := by
  rw [put_eq_table]
  exact Table.nodup_put distinct key v

/-- Fields with distinct keys make up the object that they are written into. -/
theorem putAll_nil {fs : Fields} (distinct : (fs.map (·.1)).Nodup) : putAll [] fs = fs := by
  simp only [putAll, put_eq_table]
  exact Table.foldl_put fs distinct

end TradingEngine.Json
