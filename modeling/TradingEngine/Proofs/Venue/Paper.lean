import TradingEngine.Proofs.Frame
import TradingEngine.Proofs.Table
import TradingEngine.Proofs.Venue.Reserves

/-! # Calls on paper venues

A call on a paper venue is a step on one of its pools, behind the halt switch and the guards, and
what is journalled of it. It changes no other pool, of this venue or of any other.
-/

namespace TradingEngine

open Engine Quantity

variable {ν α : Type}

namespace World

/-- The pool of a paper venue. -/
def pool? (kind : VenueKind) (key : Key) (w : World ν) : Option (Pool ν) :=
  match Table.get? kind w.venues with
  | some (.paper v) => Table.get? key v.pools
  | _ => none

/-- The world with another state of the pool of a paper venue. -/
def setPool (kind : VenueKind) (key : Key) (p : Pool ν) (w : World ν) : World ν :=
  match Table.get? kind w.venues with
  | some (.paper v) =>
    let changed : PaperVenue ν := { v with pools := Table.put key p v.pools }
    { w with venues := Table.put kind (.paper changed) w.venues }
  | _ => w

variable {w after : World ν} {kind other : VenueKind} {key k : Key} {p q : Pool ν}

theorem of_pool? (h : w.pool? kind key = some p) :
    ∃ v, Table.get? kind w.venues = some (.paper v) ∧ Table.get? key v.pools = some p := by
  unfold pool? at h
  split at h
  · exact ⟨_, ‹_›, h⟩
  · cases h

theorem pool?_eq {v : PaperVenue ν} (here : Table.get? kind w.venues = some (.paper v)) :
    w.pool? kind key = Table.get? key v.pools := by
  rw [pool?, here]

theorem pool?_of_venues (same : after.venues = w.venues) :
    after.pool? kind key = w.pool? kind key := by
  rw [pool?, pool?, same]

theorem pool?_setPool (h : w.pool? kind key = some p) :
    (w.setPool kind key q).pool? kind key = some q := by
  obtain ⟨v, here, _⟩ := of_pool? h
  simp only [setPool, here, pool?, Table.get?_put_self]

theorem pool?_of_either (held : w.pool? kind key = some p)
    (h : after.venues = w.venues ∨ after.venues = (w.setPool kind key q).venues) :
    after.pool? kind key = some p ∨ after.pool? kind key = some q := by
  rcases h with same | changed
  · exact .inl ((pool?_of_venues same).trans held)
  · exact .inr ((pool?_of_venues changed).trans (pool?_setPool held))

/-- A step that is taken unless trading is halted. -/
theorem pool?_of_checked {halted : Bool} (held : w.pool? kind key = some p)
    (h : after.venues = if halted then w.venues else (w.setPool kind key q).venues) :
    after.pool? kind key = some (if halted then p else q) := by
  cases halted with
  | true => exact (pool?_of_venues h).trans held
  | false => exact (pool?_of_venues h).trans (pool?_setPool held)

theorem pool?_setPool_of_ne (different : other ≠ kind ∨ k ≠ key) :
    (w.setPool kind key q).pool? other k = w.pool? other k := by
  unfold setPool
  split
  · rename_i v here
    by_cases same : other = kind
    · subst same
      have ne : key ≠ k := by
        rintro rfl
        exact different.elim (· rfl) (· rfl)
      simp only [pool?, Table.get?_put_self, here]
      exact Table.get?_put_of_ne ne q v.pools
    · simp only [pool?, Table.get?_put_of_ne (Ne.symm same)]
  · rfl

theorem setPool_traded (kind : VenueKind) (key : Key) (p : Pool ν) (w : World ν) :
    w.Traded (w.setPool kind key p) := by
  unfold setPool
  split
  · exact ⟨rfl, rfl, rfl, rfl, rfl, rfl⟩
  · exact Frame.refl w

theorem get?_setPool_of_ne (different : other ≠ kind) :
    Table.get? other (w.setPool kind key p).venues = Table.get? other w.venues := by
  unfold setPool
  split
  · exact Table.get?_put_of_ne (Ne.symm different) _ _
  · rfl

/-- Every pool of a paper venue is as it was. -/
def SamePools (w after : World ν) : Prop := ∀ kind key, after.pool? kind key = w.pool? kind key

theorem SamePools.of_venues (same : after.venues = w.venues) : w.SamePools after :=
  fun _ _ => pool?_of_venues same

theorem SamePools.trans {between : World ν} (h : w.SamePools between)
    (k : between.SamePools after) : w.SamePools after :=
  fun kind key => (k kind key).trans (h kind key)

theorem setPool_self (held : w.pool? kind key = some p) : w.setPool kind key p = w := by
  obtain ⟨v, here, there⟩ := of_pool? held
  simp only [setPool, here, Table.put_of_get? there, Table.put_of_get? here]

theorem samePools_setPool (held : w.pool? kind key = some p) :
    w.SamePools (w.setPool kind key p) := by
  rw [setPool_self held]
  exact .of_venues rfl

end World

namespace Trade

variable {w : World ν} {kind : VenueKind} {key : Key} {name : Name} {p : Pool ν}

theorem result_onPool {v : PaperVenue ν} (here : Table.get? kind w.venues = some (.paper v))
    (named : Key.ofName name = .ok key) (held : Table.get? key v.pools = some p)
    (step : PoolStep ν α) :
    (onPool kind v name step).result w =
      ((step.result p).1, w.setPool kind key (step.result p).2) := by
  have found : v.pool name = .ok p := by
    simp only [PaperVenue.pool, Table.keyed?, named, Except.map, held]
  have taken : step.run.run p = step.result p := rfl
  have key_found : (ofBreakdown (Key.ofName name) : Engine ν Key).result w = (.ok key, w) := by
    rw [named]
    rfl
  rw [onPool, result_bind, key_found]
  dsimp only
  rw [found, result_bind, result_ofExcept, World.setPool, here]
  dsimp only
  rw [taken]
  cases step.result p with
  | mk ended after =>
      dsimp only
      rw [result_bind, Registry.result_store]
      exact result_ofExcept _ _

theorem result_onPool_missing {v : PaperVenue ν} (named : Key.ofName name = .ok key)
    (missing : Table.get? key v.pools = none) (step : PoolStep ν α) :
    (onPool kind v name step).result w = (.error (Cause.unknownPool name v.kind).fault, w) := by
  have refused : v.pool name = refuse (.unknownPool name v.kind) := by
    simp only [PaperVenue.pool, Table.keyed?, named, Except.map, missing]
  rw [onPool, named, refused]
  rfl

/-- A step on a pool leaves what it leaves there, also if it ends in a fault. -/
theorem venues_onPool {β : Type} {v : PaperVenue ν}
    (here : Table.get? kind w.venues = some (.paper v)) (named : Key.ofName name = .ok key)
    (held : Table.get? key v.pools = some p) (step : PoolStep ν α) {rest : α → Engine ν β}
    (noted : ∀ a, Within World.Noted (rest a)) :
    ((onPool kind v name step >>= rest).result w).2.venues =
      (w.setPool kind key (step.result p).2).venues := by
  rw [result_bind, result_onPool here named held]
  cases (step.result p).1 with
  | ok a => exact (noted a _).venues
  | error f => rfl

variable [Quantity ν]

theorem result_quote (amountIn : ν) {v : PaperVenue ν} {token : Name}
    (here : Table.get? kind w.venues = some (.paper v)) :
    (quote kind name token amountIn).result w = (v.quote name token amountIn, w) := by
  rw [quote, Registry.result_find_bind here]
  exact result_ofExcept _ _

/-- A paper venue quotes what its pool quotes. -/
theorem result_quote_of_pool? (named : Key.ofName name = .ok key)
    (held : w.pool? kind key = some p) (token : Name) (amountIn : ν) :
    (quote kind name token amountIn).result w = (p.quote token amountIn, w) := by
  obtain ⟨v, here, held⟩ := World.of_pool? held
  rw [result_quote amountIn here, PaperVenue.quote, PaperVenue.pool, Table.keyed?, named]
  simp only [Except.map, held]
  rfl

/-- A swap on a paper venue changes nothing or comes to the swap on its pool. -/
theorem venues_swap (named : Key.ofName name = .ok key) (held : w.pool? kind key = some p)
    (token : Name) (amountIn : ν) (minimumOut : Option ν) (slippageBps : ν) :
    ((swap kind name token amountIn minimumOut slippageBps).result w).2.venues = w.venues ∨
      ((swap kind name token amountIn minimumOut slippageBps).result w).2.venues =
        (w.setPool kind key
          ((PoolStep.swap token amountIn minimumOut slippageBps).result p).2).venues := by
  obtain ⟨v, here, held⟩ := World.of_pool? held
  rw [swap, Registry.result_find_bind here]
  dsimp only
  rw [HaltSwitch.result_check_bind]
  split
  · exact .inl rfl
  · rw [result_bind, result_settings]
    dsimp only
    rw [result_bind, result_ofExcept]
    cases Guard.slippage w.settings slippageBps with
    | error f => exact .inl rfl
    | ok _ => exact .inr (venues_onPool here named held _ fun out => filled_noted _ _ _ _ _)

/-- A deposit on a paper venue comes to the deposit into its pool, unless trading is halted. -/
theorem venues_deposit (named : Key.ofName name = .ok key) (held : w.pool? kind key = some p)
    (amountA : ν) (amountB : Option ν) :
    ((deposit kind name amountA amountB).result w).2.venues =
      if w.halt.isSome then w.venues
      else (w.setPool kind key ((PoolStep.deposit name amountA amountB).result p).2).venues := by
  obtain ⟨v, here, held⟩ := World.of_pool? held
  rw [deposit, Registry.result_find_bind here]
  dsimp only
  rw [HaltSwitch.result_check_bind]
  split
  · rfl
  · exact venues_onPool here named held _ fun done =>
      within_bind (log_noted _ _ _ (by decide)) fun _ => within_pure _

theorem venues_withdraw (named : Key.ofName name = .ok key) (held : w.pool? kind key = some p)
    (amountA : ν) :
    ((withdraw kind name amountA).result w).2.venues =
      if w.halt.isSome then w.venues
      else (w.setPool kind key ((PoolStep.withdraw amountA).result p).2).venues := by
  obtain ⟨v, here, held⟩ := World.of_pool? held
  rw [withdraw, Registry.result_find_bind here]
  dsimp only
  rw [HaltSwitch.result_check_bind]
  split
  · rfl
  · exact venues_onPool here named held _ fun done =>
      within_bind (log_noted _ _ _ (by decide)) fun _ => within_pure _

theorem of_filled_ok {w after : World Int} {token : Name} {amountIn out : Int} {fill : Fill}
    (ended : (filled kind name token amountIn out).result w = (.ok fill, after)) :
    fill = ⟨amountIn, out⟩ ∧ w.Noted after := by
  have noted := (filled_noted kind name token amountIn out).of_ended ended
  obtain ⟨_, _, _, reported⟩ := of_bind_ok ended
  rw [Fill.ofQuantities_int, result_ofExcept] at reported
  cases reported
  exact ⟨rfl, noted⟩

section

variable {w after : World Int} {token : Name} {amount slippage : Int} {minimumOut : Option Int}

/-- How a swap on a paper venue goes. It is refused before its pool is touched, it is not sold, or
    it is sold and noted. -/
inductive PaperSwap (w : World Int) (v : PaperVenue Int) (kind : VenueKind) (name token : Name)
    (amount : Int) (minimumOut : Option Int) (slippage : Int) :
    Except Fault Fill × World Int → Prop
  | halted (after : World Int) (same : after.venues = w.venues) :
    PaperSwap w v kind name token amount minimumOut slippage (.error Cause.halted.fault, after)
  | guarded (f : Fault) (refused : Guard.slippage w.settings slippage = .error f) :
    PaperSwap w v kind name token amount minimumOut slippage (.error f, w)
  | unnamed (b : Breakdown) (named : Key.ofName name = .error b) :
    PaperSwap w v kind name token amount minimumOut slippage (.error (.breakdown b), w)
  | missing :
    PaperSwap w v kind name token amount minimumOut slippage
      (.error (Cause.unknownPool name v.kind).fault, w)
  | unsold (p : Pool Int) (f : Fault)
    (unsold : p.sale token amount minimumOut slippage = .error f) :
    PaperSwap w v kind name token amount minimumOut slippage (.error f, w)
  | sold (key : Key) (p : Pool Int) (out : Int) (ended : Except Fault Fill × World Int)
    (named : Key.ofName name = .ok key) (held : w.pool? kind key = some p)
    (sold : p.sale token amount minimumOut slippage = .ok out)
    (noted : (filled v.kind name token amount out).result
      (w.setPool kind key (p.exchanged token amount out)) = ended) :
    PaperSwap w v kind name token amount minimumOut slippage ended

theorem swap_on_paper {v : PaperVenue Int} {ended : Except Fault Fill × World Int}
    (here : Table.get? kind w.venues = some (.paper v))
    (called : (swap kind name token amount minimumOut slippage).result w = ended) :
    PaperSwap w v kind name token amount minimumOut slippage ended := by
  rw [← called, swap, Registry.result_find_bind here, HaltSwitch.result_check_bind]
  cases w.halt with
  | some reason => exact .halted _ rfl
  | none =>
      simp only [Option.isSome_none, Bool.false_eq_true, if_false]
      rw [result_bind, result_settings]
      dsimp only
      rw [result_bind, result_ofExcept]
      cases refused : Guard.slippage w.settings slippage with
      | error f => exact .guarded f refused
      | ok _ =>
          dsimp only
          cases named : Key.ofName name with
          | error b =>
              rw [onPool, named]
              exact .unnamed b named
          | ok key =>
              cases there : Table.get? key v.pools with
              | none =>
                  rw [result_bind, result_onPool_missing named there]
                  exact .missing
              | some p =>
                  have held : w.pool? kind key = some p := (World.pool?_eq here).trans there
                  rw [result_bind, result_onPool here named there, PoolStep.result_swap]
                  cases sold : p.sale token amount minimumOut slippage with
                  | error f =>
                      dsimp only
                      rw [World.setPool_self held]
                      exact .unsold p f sold
                  | ok out => exact .sold key p out _ named held sold rfl

/-- A swap that fills is a sale on a pool of the venue, and what is left to do is to take note of
    it. -/
theorem of_paper_filled {v : PaperVenue Int} {fill : Fill}
    (here : Table.get? kind w.venues = some (.paper v))
    (ended : (swap kind name token amount minimumOut slippage).result w = (.ok fill, after)) :
    ∃ key p out, Key.ofName name = .ok key ∧ w.pool? kind key = some p ∧
      p.sale token amount minimumOut slippage = .ok out ∧ fill = ⟨amount, out⟩ ∧
      (w.setPool kind key (p.exchanged token amount out)).Noted after := by
  cases swap_on_paper here ended with
  | sold key p out _ named held sold noted =>
      obtain ⟨rfl, since⟩ := of_filled_ok noted
      exact ⟨key, p, out, named, held, sold, rfl, since⟩

theorem of_swap_ok {p : Pool Int} {fill : Fill} (named : Key.ofName name = .ok key)
    (held : w.pool? kind key = some p)
    (ended : (swap kind name token amount minimumOut slippage).result w = (.ok fill, after)) :
    ∃ out, p.sale token amount minimumOut slippage = .ok out ∧ fill = ⟨amount, out⟩ ∧
      (w.setPool kind key (p.exchanged token amount out)).Noted after := by
  obtain ⟨v, here, _⟩ := World.of_pool? held
  obtain ⟨other, q, out, same, found, sold, whole, since⟩ := of_paper_filled here ended
  cases named.symm.trans same
  cases held.symm.trans found
  exact ⟨out, sold, whole, since⟩

end

end Trade

end TradingEngine
