import TradingEngine.Proofs.Strategy.Faults
import TradingEngine.Proofs.Strategy.Telling

/-! # What validation promises

An accepted block list has all that its dispatch reads: every block can be read as an operation, so
the list has a program. A list that is not accepted is refused in words, of which only the bound on
iterations is a number.
-/

namespace TradingEngine

open Quantity

variable {ν : Type} [Quantity ν]

namespace Block

variable {blocks : List Block} {b : Block}

omit [Quantity ν] in
/-- A block that has what its form requires is an operation, whatever the form. What a loop requires
    besides is that its range is found. -/
theorem operation?_isSome {form : BlockForm} (isForm : b.form? = some form)
    (has : ∀ p ∈ form.required, p.isSet b.parameters = true)
    (reaches : form = .loop → ∃ first last budget, b.loop? blocks = some (first, last, budget))
    (distinct : (blocks.map (·.id)).Nodup) : (b.operation? blocks).isSome := by
  simp only [operation?, isForm, Option.bind_eq_bind, Option.bind_some]
  cases form with
  | loop =>
      obtain ⟨first, last, budget, found⟩ := reaches rfl
      simp only [loop?, type_of_form? isForm, BlockForm.type, if_true, Option.bind_eq_bind,
        Option.bind_eq_some_iff, Option.pure_def, Option.some.injEq, Prod.mk.injEq] at found
      obtain ⟨target, start, s, begins, target', stop, e, ends, n, times, _⟩ := found
      simp [start, stop, times, position?_eq_findIdx? distinct, begins, ends]
  | trigger type | condition type | action type | exit type =>
      cases type <;>
        simp only [BlockForm.required, List.forall_mem_cons, Parameter.isSet,
          Option.isSome_iff_exists] at has <;>
        grind

theorem own_of_validate {maxIterations : ν} {index : List (Text × Nat)}
    (accepted : validate maxIterations blocks = .ok index) : ∀ b ∈ blocks, b.ownProblems = [] := by
  obtain ⟨faults, found, clean⟩ := Except.of_bind_ok accepted
  cases faults with
  | cons fault rest => cases clean
  | nil =>
      obtain ⟨ofLoops, _, none⟩ := Except.of_bind_ok found
      exact (problemsFrom_eq_nil_iff.mp (List.append_eq_nil_iff.mp (Except.ok.inj none)).1).2.2

/-- Nothing that the dispatch of a block reads is missing in an accepted list. -/
theorem operation?_of_validate {maxIterations : ν} {index : List (Text × Nat)}
    (accepted : validate maxIterations blocks = .ok index) :
    ∀ b ∈ blocks, (b.operation? blocks).isSome := by
  intro b member
  have fit := wellformed_of_validate accepted
  obtain ⟨form, isForm, has, _⟩ :=
    ownProblems_eq_nil_iff.mp (own_of_validate accepted b member)
  refine operation?_isSome isForm has (fun loop => ?_) fit.distinct
  obtain ⟨position, placed⟩ := List.getElem?_of_mem member
  have type : b.type = .loop := (type_of_form? isForm).trans (congrArg BlockForm.type loop)
  obtain ⟨first, last, budget, found, _⟩ := fit.earlier position b placed type
  exact ⟨first, last, budget, found⟩

end Block

theorem mapM_isSome {α β : Type} {f : α → Option β} {xs : List α}
    (each : ∀ x ∈ xs, (f x).isSome) : (xs.mapM f).isSome := by
  induction xs with
  | nil => rfl
  | cons x xs ih =>
      obtain ⟨y, here⟩ := Option.isSome_iff_exists.mp (each x List.mem_cons_self)
      obtain ⟨ys, rest⟩ := Option.isSome_iff_exists.mp
        (ih fun z member => each z (List.mem_cons_of_mem x member))
      rw [List.mapM_cons, here, Option.bind_eq_bind, Option.bind_some, rest]
      rfl

/-- An accepted block list is read as a program. -/
theorem Program.ofBlocks_of_validate {maxIterations : ν} {blocks : List Block}
    {index : List (Text × Nat)} (accepted : Block.validate maxIterations blocks = .ok index) :
    ∃ program, Program.ofBlocks maxIterations blocks = .ok program := by
  have read : (blocks.mapM (Block.instruction? blocks)).isSome := mapM_isSome fun b member => by
    rw [Block.instruction?, Option.isSome_map]
    exact Block.operation?_of_validate accepted b member
  obtain ⟨program, read⟩ := Option.isSome_iff_exists.mp read
  refine ⟨program, ?_⟩
  rw [ofBlocks, accepted, Except.ok_bind, read]
  rfl

/-! ### Refusals -/

namespace Block

theorem validate_telling {legible : Prop} {most : Int} (blocks : List Block)
    (bound : legible → Numeral.isWritable most = true) :
    Telling legible (validate most blocks) := by
  rw [validate_int]
  split
  · exact telling_ok _
  · exact telling_refuse fun read => faults_writable blocks (bound read)

end Block

theorem Program.ofBlocks_telling {legible : Prop} {most : Int} (blocks : List Block)
    (bound : legible → Numeral.isWritable most = true) :
    Telling legible (Program.ofBlocks most blocks) := by
  intro f failed
  cases judged : Block.validate most blocks with
  | ok index =>
      obtain ⟨program, read⟩ := ofBlocks_of_validate judged
      cases failed.symm.trans read
  | error g =>
      rw [ofBlocks, judged] at failed
      cases failed
      exact Block.validate_telling blocks bound _ judged

end TradingEngine
