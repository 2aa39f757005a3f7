import TradingEngine.Json.Writable
import TradingEngine.Proofs.Json.KeyOrder

/-! # Values that are written

A value is written if none of its numbers has too many digits and there is room for its lists and
objects within one another. Neither depends on the order of its keys.
-/

namespace TradingEngine.Json

mutual

/-- How many lists and objects stand within one another in a value. -/
def depth : Json → Nat
  | .list xs => itemsDepth xs + 1
  | .record fs => fieldsDepth fs + 1
  | _ => 0

def itemsDepth : List Json → Nat
  | [] => 0
  | x :: xs => max (depth x) (itemsDepth xs)

def fieldsDepth : Fields → Nat
  | [] => 0
  | (_, v) :: fs => max (depth v) (fieldsDepth fs)

end

/-! ### The check -/

/-- How a check may end that there is something to be written, with so many lists and objects within
    one another and room for so many. -/
inductive Checked (writable : Bool) (depth room : Nat) : Except Breakdown Unit → Prop
  | passed (digits : writable = true) (fits : depth ≤ room) : Checked writable depth room (.ok ())
  | digits (long : writable = false) : Checked writable depth room (.error .tooManyDigits)
  | depth (deep : room < depth) : Checked writable depth room (.error .tooDeep)

namespace Checked

variable {first second : Bool} {deep deeper room : Nat} {r s : Except Breakdown Unit}

theorem both (h : Checked first deep room r) (k : Checked second deeper room s) :
    Checked (first && second) (max deep deeper) room (do r; s) := by
  cases h with
  | passed digits fits =>
      cases k with
      | passed digits' fits' => exact .passed (by rw [digits, digits']; rfl) (by omega)
      | digits long => exact .digits (by rw [long, Bool.and_false])
      | depth further => exact .depth (by omega)
  | digits long => exact .digits (by rw [long, Bool.false_and])
  | depth further => exact .depth (by omega)

theorem inside (h : Checked first deep room r) : Checked first (deep + 1) (room + 1) r := by
  cases h with
  | passed digits fits => exact .passed digits (by omega)
  | digits long => exact .digits long
  | depth further => exact .depth (by omega)

theorem ok_iff (h : Checked first deep room r) : r = .ok () ↔ first = true ∧ deep ≤ room := by
  cases h with
  | passed digits fits => exact iff_of_true rfl ⟨digits, fits⟩
  | digits long => exact iff_of_false nofun fun writes => absurd (long ▸ writes.1) (by decide)
  | depth further => exact iff_of_false nofun fun writes => absurd writes.2 (by omega)

end Checked

theorem checkWritten_checked (v : Json) (room : Nat) :
    Checked v.isWritable v.depth room (v.checkWritten room) := by
  induction v using inductionOn generalizing room with
  | null => exact .passed rfl (Nat.zero_le _)
  | bool b => exact .passed rfl (Nat.zero_le _)
  | int n =>
      rw [checkWritten, isWritable]
      split
      · rename_i short
        exact .passed short (Nat.zero_le _)
      · rename_i long
        exact .digits (Bool.eq_false_iff.mpr long)
  | real x => exact .passed rfl (Nat.zero_le _)
  | text t => exact .passed rfl (Nat.zero_le _)
  | list xs each =>
      have items (room : Nat) :
          Checked (allWritable xs) (itemsDepth xs) room (checkWrittenItems xs room) := by
        induction xs with
        | nil => exact .passed rfl (Nat.zero_le _)
        | cons x xs ih =>
            rw [List.forall_mem_cons] at each
            exact (each.1 room).both (ih each.2)
      cases room with
      | zero => exact .depth (Nat.succ_pos _)
      | succ room => exact (items room).inside
  | record fs each =>
      have fields (room : Nat) :
          Checked (fieldsWritable fs) (fieldsDepth fs) room (checkWrittenFields fs room) := by
        induction fs with
        | nil => exact .passed rfl (Nat.zero_le _)
        | cons f fs ih =>
            rw [List.forall_mem_cons] at each
            exact (each.1 room).both (ih each.2)
      cases room with
      | zero => exact .depth (Nat.succ_pos _)
      | succ room => exact (fields room).inside

/-! ### The order of keys -/

theorem allWritable_append (xs ys : List Json) :
    allWritable (xs ++ ys) = (allWritable xs && allWritable ys) := by
  induction xs with
  | nil => rfl
  | cons x xs ih => rw [List.cons_append, allWritable, allWritable, ih, Bool.and_assoc]

theorem fieldsWritable_append (fs gs : Fields) :
    fieldsWritable (fs ++ gs) = (fieldsWritable fs && fieldsWritable gs) := by
  induction fs with
  | nil => rfl
  | cons f fs ih => rw [List.cons_append, fieldsWritable, fieldsWritable, ih, Bool.and_assoc]

theorem itemsDepth_append (xs ys : List Json) :
    itemsDepth (xs ++ ys) = max (itemsDepth xs) (itemsDepth ys) := by
  induction xs with
  | nil => rw [List.nil_append, itemsDepth, Nat.zero_max]
  | cons x xs ih => rw [List.cons_append, itemsDepth, itemsDepth, ih, Nat.max_assoc]

theorem fieldsDepth_append (fs gs : Fields) :
    fieldsDepth (fs ++ gs) = max (fieldsDepth fs) (fieldsDepth gs) := by
  induction fs with
  | nil => rw [List.nil_append, fieldsDepth, Nat.zero_max]
  | cons f fs ih => rw [List.cons_append, fieldsDepth, fieldsDepth, ih, Nat.max_assoc]

/-- Fields in another order can be written as well, and are as deep. -/
theorem fields_of_perm {fs gs : Fields} (perm : fs.Perm gs) :
    fieldsWritable fs = fieldsWritable gs ∧ fieldsDepth fs = fieldsDepth gs := by
  induction perm with
  | nil => exact ⟨rfl, rfl⟩
  | cons f _ ih => simp only [fieldsWritable, fieldsDepth, ih.1, ih.2, and_self]
  | swap f g fs =>
      constructor
      · simp only [fieldsWritable, Bool.and_left_comm]
      · simp only [fieldsDepth, Nat.max_left_comm]
  | trans _ _ ih ih' => exact ⟨ih.1.trans ih'.1, ih.2.trans ih'.2⟩

namespace Reordered

theorem isWritable_eq {a b : Json} (h : Reordered a b) : a.isWritable = b.isWritable := by
  induction h with
  | refl v => rfl
  | trans _ _ ih ih' => exact ih.trans ih'
  | keys perm => exact (fields_of_perm perm).1
  | item before after _ ih => simp only [isWritable, allWritable_append, allWritable, ih]
  | field before after k _ ih => simp only [isWritable, fieldsWritable_append, fieldsWritable, ih]

theorem depth_eq {a b : Json} (h : Reordered a b) : a.depth = b.depth := by
  induction h with
  | refl v => rfl
  | trans _ _ ih ih' => exact ih.trans ih'
  | keys perm => rw [depth, depth, (fields_of_perm perm).2]
  | item before after _ ih => simp only [depth, itemsDepth_append, itemsDepth, ih]
  | field before after k _ ih => simp only [depth, fieldsDepth_append, fieldsDepth, ih]

end Reordered

/-- The check of a value whose keys are put in order is one of the value itself. -/
theorem checkWritten_sorted (v : Json) (room : Nat) :
    Checked v.isWritable v.depth room (v.sorted.checkWritten room) := by
  rw [(reordered_sorted v).isWritable_eq, (reordered_sorted v).depth_eq]
  exact checkWritten_checked v.sorted room

end TradingEngine.Json
