import TradingEngine.Proofs.Strategy.RouteBooks
import TradingEngine.Proofs.Venue.Repeat
import TradingEngine.Proofs.Venue.ShareValue

/-! # The contract of a swap

Paper venues and scripted venues keep one contract. A swap that fills gives back the amount sold and
pays at least the least output asked for, or the venue's own quote less the slippage where none was.
A swap that fails has changed no pool and recorded no call. A paper venue pays what it quotes, so
its slippage is exceeded only by asking for more.
-/

namespace TradingEngine

open Engine Quantity

/-! ### What a swap may change -/

namespace World

variable {ν : Type} {w after : World ν} {kind : VenueKind}

/-- The calls that a scripted venue has recorded. -/
def calls? (kind : VenueKind) (w : World ν) : Option (List (VenueCall ν)) :=
  match Table.get? kind w.venues with
  | some (.scripted v) => some v.calls
  | _ => none

/-- No pool has changed, and no call was recorded. -/
structure Untouched (w after : World ν) : Prop where
  pools : w.SamePools after
  calls : ∀ kind, after.calls? kind = w.calls? kind

theorem Untouched.of_venues (same : after.venues = w.venues) : w.Untouched after := by
  refine ⟨.of_venues same, fun kind => ?_⟩
  rw [calls?, calls?, same]

theorem Noted.untouched (h : w.Noted after) : w.Untouched after := .of_venues h.venues

theorem Untouched.trans {between : World ν} (h : w.Untouched between)
    (k : between.Untouched after) : w.Untouched after :=
  ⟨h.pools.trans k.pools, fun kind => (k.calls kind).trans (h.calls kind)⟩

/-- A scripted venue gives way to another one. -/
def script (kind : VenueKind) (v : ScriptedVenue ν) (w : World ν) : World ν :=
  { w with venues := Table.put kind (.scripted v) w.venues }

theorem samePools_script {v u : ScriptedVenue ν}
    (here : Table.get? kind w.venues = some (.scripted v)) : w.SamePools (w.script kind u) := by
  intro other key
  by_cases same : other = kind
  · subst same
    simp only [script, pool?, Table.get?_put_self, here]
  · simp only [script, pool?, Table.get?_put_of_ne (Ne.symm same)]

theorem calls?_script (kind : VenueKind) (v : ScriptedVenue ν) (w : World ν) :
    (w.script kind v).calls? kind = some v.calls := by
  simp only [script, calls?, Table.get?_put_self]

theorem calls?_script_of_ne {other : VenueKind} (different : other ≠ kind)
    (v : ScriptedVenue ν) : (w.script kind v).calls? other = w.calls? other := by
  simp only [script, calls?, Table.get?_put_of_ne (Ne.symm different)]

theorem untouched_script {v u : ScriptedVenue ν}
    (here : Table.get? kind w.venues = some (.scripted v)) (same : u.calls = v.calls) :
    w.Untouched (w.script kind u) := by
  refine ⟨samePools_script here, fun other => ?_⟩
  by_cases this : other = kind
  · subst this
    rw [calls?_script, calls?, here, same]
  · exact calls?_script_of_ne this u

end World

/-! ### The least output -/

theorem of_leastOutput_ok {minimumOut : Option Int} {quoted slippage least : Int}
    (h : leastOutput minimumOut quoted slippage = .ok least) :
    minimumOut.getD (quoted * (bpsWhole - slippage) / bpsWhole) = least := by
  cases minimumOut with
  | some asked =>
      cases h
      rfl
  | none => exact (ConstantProduct.haircut_floor h).symm

/-! ### Kinds of failures -/

/-- A fault that is a failure of this kind. -/
def Fault.OfKind (kind : FailureKind) (f : Fault) : Prop := ∃ e, f = .failure e ∧ e.kind = kind

theorem Fault.not_ofKind_breakdown (kind : FailureKind) (b : Breakdown) :
    ¬OfKind kind (.breakdown b) := by
  rintro ⟨_, failed, _⟩
  cases failed

theorem Cause.not_ofKind_fault {cause : Cause} {kind : FailureKind} (other : cause.kind ≠ kind) :
    ¬cause.fault.OfKind kind := by
  rintro ⟨e, failed, rfl⟩
  rw [Cause.fault] at failed
  split at failed
  · cases failed
    exact other rfl
  · cases failed

/-- Whatever fault a computation ends in, it is no failure of this kind. -/
def Spares (kind : FailureKind) {α : Type} (r : Except Fault α) : Prop :=
  ∀ f, r = .error f → ¬f.OfKind kind

section

variable {α β : Type} {kind : FailureKind}

theorem spares_ok (a : α) : Spares kind (.ok a) := by
  intro f failed
  cases failed

theorem spares_refuse {cause : Cause} (other : cause.kind ≠ kind) :
    Spares kind (refuse cause : Except Fault α) := by
  intro f failed
  cases failed
  exact Cause.not_ofKind_fault other

theorem spares_bind {r : Except Fault α} {next : α → Except Fault β} (first : Spares kind r)
    (rest : ∀ a, r = .ok a → Spares kind (next a)) : Spares kind (r >>= next) := by
  intro f failed
  cases r with
  | ok a => exact rest a rfl f failed
  | error g =>
      cases failed
      exact first _ rfl

theorem Overflowing.spares {r : Except Fault α} (h : Overflowing r) (other : kind ≠ .overflow) :
    Spares kind r := by
  rintro f failed ⟨e, same, rfl⟩
  obtain ⟨cause, overflow, rfl⟩ := h f failed
  cases same
  exact other overflow

end

/-- A slippage within the cap can only be refused for being no share. -/
theorem Guard.slippage_spares {s : Settings Int} {bps : Int} (capped : bps ≤ s.maxSlippageBps) :
    Spares .slippageExceeded (slippage s bps) := by
  have share : Spares .slippageExceeded (Guard.bps (.string "slippage_bps") bps) := by
    rw [Guard.bps, whole?_int]
    dsimp only
    split
    · exact spares_refuse (by rintro ⟨⟩)
    · exact spares_ok bps
  refine spares_bind share fun _ _ => ?_
  rw [held_int, Except.ok_bind, lt_int, Except.ok_bind, decide_eq_false (Int.not_lt.mpr capped)]
  exact spares_ok bps

namespace Pool

variable {p : Pool Int} {token : Name} {amountIn : Int}

theorem quote_spares : Spares .slippageExceeded (p.quote token amountIn) := by
  have listed : Spares .slippageExceeded (p.sides token) := by
    unfold sides
    split
    · exact spares_ok _
    · split
      · exact spares_ok _
      · exact spares_refuse nofun
  exact spares_bind listed fun _ _ =>
    (ConstantProduct.swapOutput_overflows _ _ _ _).spares nofun

/-- A quote is not below itself less some slippage. -/
theorem sale_spares (slippage : Int) :
    Spares .slippageExceeded (p.sale token amountIn none slippage) := by
  refine spares_bind quote_spares fun quoted _ => ?_
  refine spares_bind ((ConstantProduct.haircut_overflows _ _).spares nofun) fun least left => ?_
  dsimp only
  rw [Guard.minimumOut_of_le (ConstantProduct.of_haircut_ok left).2.2, Except.ok_bind]
  exact spares_bind ((Checked.toU64_overflows _).spares nofun) fun _ _ => spares_ok quoted

end Pool

namespace Trade

variable {w after : World Int} {kind : VenueKind} {name token : Name} {amount slippage : Int}
  {minimumOut : Option Int} {f : Fault}

/-! ### Paper venues -/

/-- What is left to do of a swap that has been sold is to take note of it. It cannot be noted only
    where a name or a bound field has too many digits. -/
theorem of_filled_error {out : Int} (amountIn : 0 ≤ amount ∧ amount ≤ u64Max)
    (amountOut : 0 ≤ out ∧ out ≤ u64Max)
    (failed : (filled kind name token amount out).result w = (.error f, after)) :
    f = .breakdown .tooManyDigits ∧ ¬ (name.isWritable = true ∧ token.isWritable = true ∧
      Json.fieldsWritable w.journal.bound = true) := by
  rw [filled, result_bind, result_log] at failed
  generalize written : w.journal.write _ _ _ = journal at failed
  cases journal with
  | ok journal => cases failed
  | error b =>
      cases failed
      refine ⟨congrArg _ (Journal.of_write_error written), ?_⟩
      rintro ⟨named, sold, bound⟩
      have own : Json.fieldsWritable
          [("venue", .text kind.name), ("pool", name), ("token_in", token),
            ("amount_in", .int amount), ("amount_out", .int out)] = true := by
        simp only [Json.fieldsWritable, Json.isWritable, Bool.and_self, named, sold,
          Numeral.isWritable_of_u64 amountIn.1 amountIn.2,
          Numeral.isWritable_of_u64 amountOut.1 amountOut.2]
      exact Journal.unwritable_of_write_error written ⟨bound, own⟩

/-! ### Scripted venues -/

/-- What stands in front of the calls of a scripted venue records none, also where it fails. -/
theorem of_scriptedCall {v : ScriptedVenue Int} {r : Except Fault Unit}
    (here : Table.get? kind w.venues = some (.scripted v))
    (ended : (scriptedCall kind v).result w = (r, after)) :
    w.Untouched after ∧ (r = .ok () → after = w) := by
  rw [scriptedCall, result_bind, HaltSwitch.result_isActive] at ended
  dsimp only at ended
  split at ended
  · refine ⟨?_, ?_⟩
    · refine World.Noted.untouched (Within.of_ended ?_ ended)
      exact within_bind (count_noted _) fun _ => within_bind (log_noted _ _ _ (by decide))
        fun _ => within_fail_bind _ _
    · rintro rfl
      obtain ⟨_, _, _, ended⟩ := of_bind_ok ended
      obtain ⟨_, _, _, ended⟩ := of_bind_ok ended
      obtain ⟨_, _, ended, _⟩ := of_bind_ok ended
      cases ended
  · split at ended
    · refine ⟨?_, ?_⟩
      · rw [result_bind, Registry.result_store] at ended
        dsimp only at ended
        have stored := World.untouched_script (u := { v with failsNext := false }) here rfl
        refine stored.trans (World.Noted.untouched (Within.of_ended ?_ ended))
        exact within_bind (log_noted _ _ _ (by decide)) fun _ => within_fault _
      · rintro rfl
        obtain ⟨_, _, _, ended⟩ := of_bind_ok ended
        obtain ⟨_, _, _, ended⟩ := of_bind_ok ended
        cases ended
    · cases ended
      exact ⟨.of_venues rfl, fun _ => rfl⟩

/-- How a swap on a scripted venue goes. It fails and records nothing, or it fills and is recorded
    with the least output that it was held to. -/
inductive ScriptedSwap (w : World Int) (v : ScriptedVenue Int) (kind : VenueKind)
    (name token : Name) (amount : Int) (minimumOut : Option Int) (slippage : Int) :
    Except Fault Fill × World Int → Prop
  | failed (f : Fault) (after : World Int) (same : w.Untouched after) :
    ScriptedSwap w v kind name token amount minimumOut slippage (.error f, after)
  | filled (quoted paid least : Int) (priced : v.quote name token amount = .ok quoted)
    (asked : leastOutput minimumOut quoted slippage = .ok least) (covered : least ≤ paid) :
    ScriptedSwap w v kind name token amount minimumOut slippage
      (.ok ⟨amount, paid⟩, w.script kind
        { v with calls := v.calls ++ [.swap name token amount least slippage paid] })

/-- What is left to do of a swap that is priced and paid is to hold it to its least output. -/
theorem ScriptedSwap.of_paid {v : ScriptedVenue Int} {quoted paid least : Int}
    (priced : v.quote name token amount = .ok quoted)
    (asked : leastOutput minimumOut quoted slippage = .ok least) :
    ScriptedSwap w v kind name token amount minimumOut slippage ((do
      let _ ← Engine.ofExcept (Guard.minimumOut paid least)
      recordCall kind v (.swap name token amount least slippage paid)
      Engine.ofExcept (Fill.ofQuantities amount paid) : Engine Int Fill).result w) := by
  rw [result_bind, result_ofExcept]
  cases guarded : Guard.minimumOut paid least with
  | error f => exact .failed f w (.of_venues rfl)
  | ok _ => exact .filled quoted paid least priced asked (Guard.le_of_minimumOut_ok guarded)

theorem swap_on_script {v : ScriptedVenue Int} {ended : Except Fault Fill × World Int}
    (here : Table.get? kind w.venues = some (.scripted v))
    (called : (swap kind name token amount minimumOut slippage).result w = ended) :
    ScriptedSwap w v kind name token amount minimumOut slippage ended := by
  rw [← called, swap, Registry.result_find_bind here]
  dsimp only
  rw [result_bind]
  cases called : (scriptedCall kind v).result w with
  | mk r after =>
      obtain ⟨untouched, unchanged⟩ := of_scriptedCall here called
      cases r with
      | error f => exact .failed f after untouched
      | ok _ =>
          rw [unchanged rfl] at untouched ⊢
          dsimp only
          rw [result_bind, result_ofExcept]
          cases priced : v.quote name token amount with
          | error f => exact .failed f w untouched
          | ok quoted =>
              dsimp only
              rw [result_bind, result_ofExcept]
              cases v.paid quoted with
              | error f => exact .failed f w untouched
              | ok paid =>
                  cases minimumOut with
                  | some least => exact .of_paid priced rfl
                  | none =>
                      dsimp only
                      rw [result_bind, result_ofExcept]
                      cases asked : ConstantProduct.haircut quoted slippage with
                      | error f => exact .failed f w untouched
                      | ok least => exact .of_paid priced asked

/-! ### What either venue keeps -/

theorem of_paper_failed {v : PaperVenue Int} (here : Table.get? kind w.venues = some (.paper v))
    (ended : (swap kind name token amount minimumOut slippage).result w = (.error f, after)) :
    w.Untouched after ∨ f = .breakdown .tooManyDigits ∧ ¬ (name.isWritable = true ∧
      token.isWritable = true ∧ Json.fieldsWritable w.journal.bound = true) := by
  cases swap_on_paper here ended with
  | halted _ same => exact .inl (.of_venues same)
  | guarded | unnamed | missing | unsold => exact .inl (.of_venues rfl)
  | sold key p out _ _ _ sold noted =>
      obtain ⟨amountIn, amountOut⟩ := Pool.quote_bounds (Pool.of_sale_ok sold)
      rw [← (World.setPool_traded kind key _ w).bound]
      exact .inr (of_filled_error amountIn amountOut noted)

/-- Without a least output of its own a swap never exceeds a slippage that is within the cap. -/
theorem of_paper_exceeded {v : PaperVenue Int}
    (here : Table.get? kind w.venues = some (.paper v))
    (capped : slippage ≤ w.settings.maxSlippageBps)
    (ended : (swap kind name token amount none slippage).result w = (.error f, after)) :
    ¬f.OfKind .slippageExceeded := by
  cases swap_on_paper here ended with
  | halted => exact Cause.not_ofKind_fault nofun
  | guarded _ refused => exact Guard.slippage_spares capped f refused
  | unnamed => exact Fault.not_ofKind_breakdown _ _
  | missing => exact Cause.not_ofKind_fault nofun
  | unsold _ _ unsold => exact Pool.sale_spares slippage f unsold
  | sold key p out _ _ _ sold noted =>
      obtain ⟨amountIn, amountOut⟩ := Pool.quote_bounds (Pool.of_sale_ok sold)
      obtain ⟨rfl, _⟩ := of_filled_error amountIn amountOut noted
      exact Fault.not_ofKind_breakdown _ _

theorem result_quote_scripted {v : ScriptedVenue Int}
    (here : Table.get? kind w.venues = some (.scripted v)) :
    (quote kind name token amount).result w = (v.quote name token amount, w) := by
  rw [quote, Registry.result_find_bind here]
  exact result_ofExcept _ _

/-- Whatever fills pays the least output asked for, or the venue's quote less the slippage. -/
theorem floor_of_filled {fill : Fill} (firm : ∀ v, Table.get? kind w.venues ≠ some (.loose v))
    (ended : (swap kind name token amount minimumOut slippage).result w = (.ok fill, after)) :
    fill.amountIn = amount ∧ ∃ quoted, (quote kind name token amount).result w = (.ok quoted, w) ∧
      minimumOut.getD (quoted * (bpsWhole - slippage) / bpsWhole) ≤ fill.amountOut := by
  cases here : Table.get? kind w.venues with
  | none =>
      rw [swap, result_bind, Registry.result_find, here] at ended
      cases ended
  | some venue =>
      cases venue with
      | loose v => exact absurd here (firm v)
      | paper v =>
          obtain ⟨key, p, out, named, held, sold, rfl, _⟩ := of_paper_filled here ended
          obtain ⟨quoted, _, least, asked, covered⟩ := Pool.sale_eq sold
          refine ⟨rfl, out, ?_, ?_⟩
          · rw [result_quote_of_pool? named held, quoted]
          · rw [of_leastOutput_ok asked]
            exact covered
      | scripted v =>
          cases swap_on_script here ended with
          | filled quoted paid least priced asked covered =>
              refine ⟨rfl, quoted, ?_, ?_⟩
              · rw [result_quote_scripted here, priced]
              · rw [of_leastOutput_ok asked]
                exact covered

theorem untouched_of_failed (firm : ∀ v, Table.get? kind w.venues ≠ some (.loose v))
    (ended : (swap kind name token amount minimumOut slippage).result w = (.error f, after)) :
    w.Untouched after ∨ f = .breakdown .tooManyDigits ∧ ¬ (name.isWritable = true ∧
      token.isWritable = true ∧ Json.fieldsWritable w.journal.bound = true) := by
  cases here : Table.get? kind w.venues with
  | none =>
      rw [swap, result_bind, Registry.result_find, here] at ended
      cases ended
      exact .inl (.of_venues rfl)
  | some venue =>
      cases venue with
      | loose v => exact absurd here (firm v)
      | paper v => exact of_paper_failed here ended
      | scripted v =>
          cases swap_on_script here ended with
          | failed _ _ same => exact .inl same

/-- A swap on a paper venue or on a scripted one gives back what was sold and pays no less than it
    was asked to, or it has changed no pool and recorded no call; only where a name or a bound field
    has too many digits can a swap fail that is done, since it cannot be journalled then. A paper
    venue pays its quote out of its pool, so that it never exceeds a slippage within the cap. -/
theorem swap_contract (firm : ∀ v, Table.get? kind w.venues ≠ some (.loose v)) (name token : Name)
    (amount : Int) (minimumOut : Option Int) (slippage : Int) :
    (∀ fill after,
      (swap kind name token amount minimumOut slippage).result w = (.ok fill, after) →
      fill.amountIn = amount ∧
        ∃ quoted, (quote kind name token amount).result w = (.ok quoted, w) ∧
          minimumOut.getD (quoted * (bpsWhole - slippage) / bpsWhole) ≤ fill.amountOut) ∧
    (∀ f after,
      (swap kind name token amount minimumOut slippage).result w = (.error f, after) →
      w.Untouched after ∨ f = .breakdown .tooManyDigits ∧ ¬ (name.isWritable = true ∧
        token.isWritable = true ∧ Json.fieldsWritable w.journal.bound = true)) ∧
    ∀ v, Table.get? kind w.venues = some (.paper v) →
      (∀ fill after,
        (swap kind name token amount minimumOut slippage).result w = (.ok fill, after) →
        (quote kind name token amount).result w = (.ok fill.amountOut, w) ∧
          ∃ key, Key.ofName name = .ok key ∧
            w.Exchanged kind key token amount fill.amountOut after) ∧
      (minimumOut = none → slippage ≤ w.settings.maxSlippageBps → ∀ f after,
        (swap kind name token amount minimumOut slippage).result w = (.error f, after) →
        ¬f.OfKind .slippageExceeded) := by
  refine ⟨fun fill after => floor_of_filled firm, fun f after => untouched_of_failed firm, ?_⟩
  intro v here
  constructor
  · intro fill after ended
    obtain ⟨key, p, out, named, held, sold, rfl, noted⟩ := of_paper_filled here ended
    have quoted := Pool.of_sale_ok sold
    refine ⟨?_, key, named, World.exchanged_of_noted held quoted noted⟩
    rw [result_quote_of_pool? named held, quoted]
  · rintro rfl capped f after ended
    exact of_paper_exceeded here capped ended

/-- A world with a venue that quotes two for one and pays 1 % less. -/
def scriptedWorld : World Int :=
  { settings := .standard
    journal := { threshold := 60 }
    venues := [(.raydium, .scripted
      { kind := .raydium, rates := [("A-B:A", 2, 1)], haircutBps := 100 })] }

/-- The scripted venue falls short of its quote less 0.5 %, but not of its quote less 1 %; the pool
    pays its quote, and does not sell a token that it does not hold. -/
theorem contract_kept_on_both :
    (1000 * (bpsWhole - 100) / bpsWhole ≤ 990 ∧
      ∃ f after, (swap .raydium (.text "A-B") (.text "A") (500 : Int) none 50).result
        scriptedWorld = (.error f, after) ∧ scriptedWorld.Untouched after) ∧
    (∃ after, (swap .raydium (.text "A-B") (.text "A") (100 : Int) none 50).result
        (quietWorld (pairPool 1000 4000 1000)) = (.ok ⟨100, 360⟩, after) ∧
      (quietWorld (pairPool 1000 4000 1000)).Exchanged .raydium (.text "A-B") (.text "A") 100 360
        after) ∧
    ∃ f after, (swap .raydium (.text "A-B") (.text "C") (100 : Int) none 50).result
      (quietWorld (pairPool 1000 4000 1000)) = (.error f, after) ∧
        ¬f.OfKind .slippageExceeded := by
  have scripted (v : LooseVenue) : Table.get? .raydium scriptedWorld.venues ≠ some (.loose v) :=
    fun loose => nomatch loose
  have paper (v : LooseVenue) :
      Table.get? .raydium (quietWorld (pairPool 1000 4000 1000)).venues ≠ some (.loose v) :=
    fun loose => nomatch loose
  refine ⟨⟨?_, _, _, rfl, ?_⟩, ⟨_, rfl, ?_⟩, _, _, rfl, ?_⟩
  · obtain ⟨filled, _⟩ := swap_contract scripted (.text "A-B") (.text "A") 500 none 100
    obtain ⟨_, quoted, priced, covered⟩ := filled ⟨500, 990⟩ _ rfl
    cases priced
    exact covered
  · obtain ⟨_, failed, _⟩ := swap_contract scripted (.text "A-B") (.text "A") 500 none 50
    exact (failed _ _ rfl).resolve_right fun unwritten => unwritten.2 ⟨rfl, rfl, rfl⟩
  · obtain ⟨_, _, onPaper⟩ := swap_contract paper (.text "A-B") (.text "A") 100 none 50
    obtain ⟨_, key, named, exchanged⟩ := (onPaper _ rfl).1 ⟨100, 360⟩ _ rfl
    cases named
    exact exchanged
  · obtain ⟨_, _, onPaper⟩ := swap_contract paper (.text "A-B") (.text "C") 100 none 50
    exact (onPaper _ rfl).2 rfl (by decide) _ _ rfl

end Trade

end TradingEngine
