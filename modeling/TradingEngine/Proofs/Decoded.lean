import TradingEngine.Record.Decoder

/-! # What is known of what was read

A reader gives a value or the problems that stood in its way. What holds of every value that it can
give is put together from what holds of the values of its parts.
-/

namespace TradingEngine

namespace Decoded

variable {α β : Type}

/-- Whatever value is read has this property. -/
def Gives (P : α → Prop) (d : Decoded α) : Prop := ∀ a, d = .value a → P a

theorem gives_map {P : β → Prop} {Q : α → Prop} {f : α → β} {d : Decoded α}
    (h : ∀ a, Q a → P (f a)) (first : Gives Q d) : Gives P (f <$> d) := by
  intro b read
  cases d with
  | value a =>
      cases read
      exact h a (first a rfl)
  | problems | broken => cases read

/-- A function and its argument, each with what is known of it. -/
theorem gives_seq {P : β → Prop} {Q : α → Prop} {f : Decoded (α → β)} {d : Decoded α}
    (first : Gives (fun g => ∀ a, Q a → P (g a)) f) (last : Gives Q d) : Gives P (f <*> d) := by
  intro b read
  cases f with
  | value g =>
      cases d with
      | value a =>
          cases read
          exact first g rfl a (last a rfl)
      | problems | broken => cases read
  | problems | broken => cases d <;> cases read

theorem gives_seq_any {P : β → Prop} {f : Decoded (α → β)} {d : Decoded α}
    (first : Gives (fun g => ∀ a, P (g a)) f) : Gives P (f <*> d) :=
  gives_seq (Q := fun _ => True) (fun g read a _ => first g read a) fun _ _ => trivial

theorem Gives.below {P : α → Prop} {d : Decoded α} (h : Gives P d) (step : PlaceStep) :
    Gives P (d.below step) := by
  intro a read
  cases d with
  | value _ =>
      cases read
      exact h _ rfl
  | problems | broken => cases read

theorem gives_andThen {P : β → Prop} {d : Decoded α} {f : α → Decoded β}
    (h : ∀ a, Gives P (f a)) : Gives P (d.andThen f) := by
  intro b read
  cases d with
  | value a => exact h a b read
  | problems | broken => cases read

theorem gives_problem {P : α → Prop} (kind : ProblemKind) :
    Gives P (problem kind : Decoded α) := by
  intro a read
  cases read

end Decoded

open Decoded

namespace Decoder

theorem atLeast_gives (least : Int) (j : Json) : Gives (least ≤ ·) (atLeast least j) := by
  refine gives_andThen fun n m read => ?_
  split at read
  · cases read
  · cases read
    omega

theorem within_gives (least most : Int) (j : Json) :
    Gives (fun n => least ≤ n ∧ n ≤ most) (within least most j) := by
  refine gives_andThen fun n m read => ?_
  split at read
  · cases read
  · split at read
    · cases read
    · cases read
      omega

theorem required_gives {α : Type} {P : α → Prop} (fields : Fields) (name : String)
    {d : Decoder α} (h : ∀ j, Gives P (d j)) : Gives P (required fields name d) := by
  unfold required
  split
  · exact (h _).below _
  · exact (gives_problem _).below _

/-- What is known of an item is known of all that a list holds. -/
theorem list_gives {α : Type} {P : α → Prop} {d : Decoder α} (h : ∀ j, Gives P (d j)) (j : Json) :
    Gives (∀ a ∈ ·, P a) (list d j) := by
  have items (rest : List Json) (index : Nat) : Gives (∀ a ∈ ·, P a) (itemsFrom d index rest) := by
    induction rest generalizing index with
    | nil =>
        intro found read
        cases read
        exact List.forall_mem_nil _
    | cons j rest ih =>
        refine gives_seq (gives_map (Q := P) (fun a held others all => ?_) ((h j).below _))
          (ih (index + 1))
        exact List.forall_mem_cons.mpr ⟨held, all⟩
  unfold list
  split
  · exact items _ 0
  · exact gives_problem _

theorem optionalField_gives {α : Type} {P : α → Prop} (fields : Fields) (name : String)
    {d : Decoder α} (h : ∀ j, Gives P (d j)) :
    Gives (∀ a ∈ ·, P a) (optionalField fields name d) := by
  have given (j : Json) : Gives (∀ a ∈ ·, P a) (optional d j) := by
    unfold optional
    split
    · intro found read
      cases read
      intro a absent
      cases absent
    · refine gives_map (Q := P) (fun a held b same => ?_) (h j)
      cases same
      exact held
  simp only [optionalField, defaulted, defaultedBy]
  cases Json.lookup name fields with
  | some j => exact (given j).below _
  | none =>
      intro found read
      cases read
      intro a absent
      cases absent

theorem closed_gives {α : Type} {P : α → Prop} {names : List String} {fields : Fields}
    {read : Decoded α} (h : Gives P read) : Gives P (closed names fields read) := by
  unfold closed
  split
  · exact gives_seq_any (gives_map (fun a held _ => held) h)
  · exact gives_problem _

theorem object_gives {α : Type} {P : α → Prop} {origin : Origin} {read : Fields → Decoded α}
    (h : ∀ fields, Gives P (read fields)) (j : Json) : Gives P (object origin read j) := by
  unfold object
  split
  · exact h _
  · exact gives_problem _

end Decoder

end TradingEngine
