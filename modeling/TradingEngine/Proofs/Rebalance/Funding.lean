import TradingEngine.Proofs.Control.Search
import TradingEngine.Proofs.Decoded
import TradingEngine.Proofs.Rebalance.Plan

/-! # Plans that are paid for

A plan that is asked of the control surface takes what venues hold as a whole. Each target is
compared with all that its venue holds, so the withdrawals from a venue are covered exactly if the
targets that are over their aims keep enough between them. The deposits are covered by the
withdrawals exactly if what the venues of the targets hold, counted for every target, is no less
than the aims. Where no venue has two targets and nothing is held elsewhere, both are so.
-/

namespace TradingEngine

open Engine Quantity

namespace Rebalance

/-- What the moves take out at a venue. -/
def removedAt (venue : VenueKind) (moves : List LiquidityMove) : Int :=
  ((moves.filter fun m => m.venue = venue ∧ m.direction = .remove).map (·.amount)).sum

/-- What the moves of one direction come to. -/
def together (direction : MoveDirection) (moves : List LiquidityMove) : Int :=
  ((moves.filter (·.direction = direction)).map (·.amount)).sum

/-- The targets at a venue that hold more than they are to hold. -/
def overfull (held aims : LiquidityTarget → Int) (venue : VenueKind)
    (targets : List LiquidityTarget) : List LiquidityTarget :=
  targets.filter fun t => t.venue = venue ∧ aims t < held t

section

variable {held aims : LiquidityTarget → Int} {targets : List LiquidityTarget}
  {moves : List LiquidityMove}

theorem sum_signed_eq (moves : List LiquidityMove) :
    (moves.map (·.signed)).sum = together .add moves - together .remove moves := by
  unfold together
  induction moves with
  | nil => rfl
  | cons m ms ih =>
      rw [List.map_cons, List.sum_cons, ih, LiquidityMove.signed]
      cases direction : m.direction with
      | add =>
          simp [direction]
          omega
      | remove =>
          simp [direction]
          omega

/-- The deposits are covered by the withdrawals if the aims are no more than what is held. -/
theorem Meets.together_le_iff (meets : Meets held aims targets moves) :
    together .add moves ≤ together .remove moves ↔
      (targets.map aims).sum ≤ (targets.map held).sum := by
  have balance := meets.balance
  rw [sum_signed_eq] at balance
  omega

/-- What is taken out at a venue is what its overfull targets have too much. -/
theorem Meets.removedAt_eq (meets : Meets held aims targets moves) (venue : VenueKind) :
    removedAt venue moves =
      ((overfull held aims venue targets).map fun t => held t - aims t).sum := by
  unfold removedAt overfull
  induction meets with
  | nil => rfl
  | @kept t ts ms met _ ih =>
      have level : ¬ (t.venue = venue ∧ aims t < held t) := by omega
      rw [List.filter_cons_of_neg (by simpa using level)]
      exact ih
  | @moved t ts m ms same _ positive met _ ih =>
      rw [LiquidityMove.signed] at met
      cases direction : m.direction with
      | add =>
          rw [direction] at met
          have short : ¬ (t.venue = venue ∧ aims t < held t) := by
            dsimp only at met
            omega
          rw [List.filter_cons_of_neg (by simp [direction]),
            List.filter_cons_of_neg (by simpa using short)]
          exact ih
      | remove =>
          rw [direction] at met
          dsimp only at met
          have amount : m.amount = held t - aims t := by omega
          by_cases here : t.venue = venue
          · have excess : t.venue = venue ∧ aims t < held t := ⟨here, by omega⟩
            rw [List.filter_cons_of_pos (by simp [direction, same, here]),
              List.filter_cons_of_pos (by simpa using excess), List.map_cons, List.map_cons,
              List.sum_cons, List.sum_cons, ih, amount]
          · rw [List.filter_cons_of_neg (by simp [same, here]),
              List.filter_cons_of_neg (by simp [here])]
            exact ih

end

end Rebalance

/-! ### What a request asks for -/

open Rebalance

theorem LiquidityTarget.decode_share (origin : Origin) (j : Json) :
    Decoded.Gives (fun t => 0 ≤ t.share) (decode origin j) := by
  refine Decoder.object_gives (fun fields => ?_) j
  refine Decoded.gives_seq (Decoded.gives_seq_any
    (Decoded.gives_map (Q := fun _ => True) (fun _ _ => ?_) fun _ _ => trivial))
    (Decoder.required_gives fields "target_ratio" (Decoder.within_gives 0 100))
  intro _ share bounds
  exact bounds.1

namespace PlanRequest

/-- What is held, entered for the venues as a whole. -/
def rows (r : PlanRequest) : List (Holder × Int) :=
  r.current.map fun (venue, amount) => ((venue, none), amount)

/-- What is held at a venue. -/
def holds (r : PlanRequest) (venue : VenueKind) : Int := entered (venue, none) r.rows

/-- What a target is to hold. -/
def aim (r : PlanRequest) (t : LiquidityTarget) : Int := Rebalance.aim (whole r.rows) t

/-- The targets at a venue of which each is to hold less than the venue does. -/
def overfull (r : PlanRequest) (venue : VenueKind) : List LiquidityTarget :=
  Rebalance.overfull (fun t => r.holds t.venue) r.aim venue r.targets

theorem decode_shares (origin : Origin) (j : Json) :
    Decoded.Gives (fun r => ∀ t ∈ r.targets, 0 ≤ t.share) (decode origin j) := by
  refine Decoder.object_gives (fun fields => ?_) j
  refine Decoded.gives_seq
    (Decoded.gives_map (Q := fun _ => True) (fun _ _ => ?_) fun _ _ => trivial)
    (Decoder.required_gives fields "targets"
      (Decoder.list_gives (LiquidityTarget.decode_share origin)))
  intro targets shares
  exact shares

variable {r : PlanRequest} {moves : List LiquidityMove}

/-- A target is taken to hold what its venue holds. -/
theorem present_rows (t : LiquidityTarget) : present r.rows t = r.holds t.venue := by
  refine if_neg fun named => ?_
  obtain ⟨row, member, same⟩ := List.mem_map.mp named
  obtain ⟨entry, -, rfl⟩ := List.mem_map.mp member
  cases (Prod.mk.inj same).2

theorem rows_nonneg (nonneg : ∀ row ∈ r.current, 0 ≤ row.2) : ∀ row ∈ r.rows, 0 ≤ row.2 := by
  intro row listed
  obtain ⟨entry, member, rfl⟩ := List.mem_map.mp listed
  exact nonneg entry member

theorem holds_nonneg (nonneg : ∀ row ∈ r.current, 0 ≤ row.2) (venue : VenueKind) :
    0 ≤ r.holds venue :=
  whole_nonneg fun row kept => rows_nonneg nonneg row (List.mem_of_mem_filter kept)

/-- Where no venue has two targets and nothing is held elsewhere, the targets hold everything. -/
theorem whole_eq_sum_holds (distinct : (r.targets.map (·.venue)).Nodup)
    (targeted : ∀ row ∈ r.current, row.2 ≠ 0 → row.1 ∈ r.targets.map (·.venue)) :
    whole r.rows = (r.targets.map fun t => r.holds t.venue).sum := by
  have holders : ((r.targets.map (·.venue)).map fun venue => ((venue, none) : Holder)).Nodup :=
    distinct.map fun _ _ same => (Prod.mk.inj same).1
  rw [whole_eq_sum_entered holders, List.map_map, List.map_map]
  · rfl
  · intro row listed something
    obtain ⟨entry, member, rfl⟩ := List.mem_map.mp listed
    exact List.mem_map_of_mem (targeted entry member something)

theorem aim_nonneg (nonneg : ∀ row ∈ r.current, 0 ≤ row.2) {t : LiquidityTarget}
    (share : 0 ≤ t.share) : 0 ≤ r.aim t :=
  Int.ediv_nonneg (Int.mul_nonneg (whole_nonneg (rows_nonneg nonneg)) share) (by decide)

theorem of_mem_overfull {venue : VenueKind} {t : LiquidityTarget} (listed : t ∈ r.overfull venue) :
    t ∈ r.targets ∧ t.venue = venue := by
  obtain ⟨member, passed⟩ := List.mem_filter.mp listed
  exact ⟨member, (of_decide_eq_true passed).1⟩

/-- What the targets of one venue have too much is counted from the venue's holding for each. -/
theorem sum_surplus {venue : VenueKind} {targets : List LiquidityTarget}
    (here : ∀ t ∈ targets, t.venue = venue) :
    (targets.map fun t => r.holds t.venue - r.aim t).sum =
      targets.length * r.holds venue - (targets.map r.aim).sum := by
  induction targets with
  | nil => simp
  | cons t ts ih =>
      obtain ⟨first, others⟩ := List.forall_mem_cons.mp here
      simp only [List.map_cons, List.sum_cons, ih others, first, List.length_cons, Int.natCast_add,
        Int.add_mul]
      omega

/-- Where no venue has two targets, a venue is left with what its target is to hold. -/
theorem overfull_le_holds (nonneg : ∀ row ∈ r.current, 0 ≤ row.2)
    (shares : ∀ t ∈ r.targets, 0 ≤ t.share) (distinct : (r.targets.map (·.venue)).Nodup)
    (venue : VenueKind) :
    ((r.overfull venue).map fun t => r.holds t.venue - r.aim t).sum ≤ r.holds venue := by
  have once : ((r.overfull venue).map (·.venue)).Nodup :=
    distinct.sublist (List.filter_sublist.map _)
  have known : ∀ t ∈ r.overfull venue, t ∈ r.targets ∧ t.venue = venue := fun t => of_mem_overfull
  cases listed : r.overfull venue with
  | nil => exact holds_nonneg nonneg venue
  | cons t rest =>
      rw [listed] at once known
      obtain ⟨⟨member, here⟩, others⟩ := List.forall_mem_cons.mp known
      cases rest with
      | nil =>
          have aimed : 0 ≤ r.aim t := aim_nonneg nonneg (shares t member)
          simp only [List.map_cons, List.map_nil, List.sum_cons, List.sum_nil, here]
          omega
      | cons u more =>
          -- A second target over its aim would be another target at this venue.
          have there : u.venue = venue := (others u List.mem_cons_self).2
          exact absurd (List.mem_map.mpr ⟨u, List.mem_cons_self, there.trans here.symm⟩)
            (List.nodup_cons.mp once).1

/-- How far the plan of a request is paid for. -/
theorem planned_fundable (shares : ∀ t ∈ r.targets, 0 ≤ t.share)
    (full : (r.targets.map (·.share)).sum = 100)
    (meets : Meets (present r.rows) (Rebalance.aim (whole r.rows)) r.targets moves) :
    (∀ venue, removedAt venue moves ≤ r.holds venue ↔
      ((r.overfull venue).length - 1) * r.holds venue ≤ ((r.overfull venue).map r.aim).sum) ∧
    (together .add moves ≤ together .remove moves ↔
      (r.targets.map r.aim).sum ≤ (r.targets.map fun t => r.holds t.venue).sum) ∧
    ((∀ row ∈ r.current, 0 ≤ row.2) → (r.targets.map (·.venue)).Nodup →
      (∀ row ∈ r.current, row.2 ≠ 0 → row.1 ∈ r.targets.map (·.venue)) →
      (∀ venue, removedAt venue moves ≤ r.holds venue) ∧
        together .add moves ≤ together .remove moves) := by
  have holds : present r.rows = fun t => r.holds t.venue := funext present_rows
  rw [holds] at meets
  have removed (venue : VenueKind) : removedAt venue moves =
      ((r.overfull venue).map fun t => r.holds t.venue - r.aim t).sum := meets.removedAt_eq venue
  refine ⟨fun venue => ?_, meets.together_le_iff, fun nonneg distinct targeted =>
    ⟨fun venue => ?_, meets.together_le_iff.mpr ?_⟩⟩
  · rw [removed, sum_surplus fun t listed => (of_mem_overfull listed).2, Int.sub_mul]
    omega
  · rw [removed]
    exact overfull_le_holds nonneg shares distinct venue
  · rw [← whole_eq_sum_holds distinct targeted]
    exact (allotted_bounds full (whole r.rows)).2

end PlanRequest

namespace Control

variable {q : ControlRequest} {response : ControlResponse} {w after : World Int}

theorem of_send_ok {given : ControlResponse} (method : q.method ≠ "HEAD")
    (sent : (send q given).result w = (.ok response, after)) : response = given := by
  have returned {between : World Int} (h : (pure (if q.method = "HEAD" then
      { given with content := .value (.text "") } else given) : Engine Int _).result between =
        (.ok response, after)) : response = given := by
    rw [if_neg method] at h
    cases h
    rfl
  unfold send at sent
  cases content : given.content with
  | problems ps =>
      rw [content] at sent
      exact returned sent
  | value v =>
      rw [content] at sent
      obtain ⟨_, _, _, sent⟩ := of_bind_ok sent
      exact returned sent

theorem method_of_route {found : ControlRoute} (reads : found.readsBody = true)
    (routed : route q = .ok found) : q.method = "POST" := by
  have answers : found.methods = ["POST"] := by
    rcases ControlRoute.of_readsBody reads with rfl | rfl <;> rfl
  unfold route at routed
  split at routed
  · cases routed
  · split at routed
    · rename_i other chosen
      cases routed
      have contains := List.find?_some chosen
      simpa [answers] using contains
    · cases routed

/-- A request for a route that reads a record is accepted for what is made of the record. -/
theorem of_handle_read {α : Type} {decode : Decoder α} {found : ControlRoute}
    {answer : α → Engine Int ControlResponse} (reads : found.readsBody = true)
    (serves : serve q found = withRecord decode q.content answer) (routed : route q = .ok found)
    (answered : (handle q).result w = (.ok response, after)) (accepted : response.status = 200) :
    ∃ record between, readBody decode q.content = .value record ∧
      (answer record).result w = (.ok response, between) := by
  unfold handle at answered
  cases stays : redirection? q with
  | some location =>
      rw [stays] at answered
      cases answered
      cases accepted
  | none =>
      rw [stays, routed] at answered
      obtain ⟨given, between, served, sent⟩ := of_bind_ok answered
      -- Only a HEAD request loses its content on the way.
      have post := method_of_route reads routed
      cases of_send_ok (by rw [post]; decide) sent
      rw [result_answerRoute reads] at served
      split at served
      · cases served
        cases accepted
      · cases served
        cases accepted
      · split at served
        · cases served
        · rename_i denial _
          cases served
          cases denial <;> cases accepted
        · rw [serves, withRecord] at served
          split at served
          · rename_i record read
            exact ⟨record, between, read, served⟩
          · cases served
          · obtain ⟨_, _, _, served⟩ := of_bind_ok served
            cases served
            cases accepted

/-- A plan that is answered with is the plan that was computed. -/
theorem of_planRebalance_ok {r : PlanRequest}
    (answered : (planRebalance r).result w = (.ok response, after))
    (accepted : response.status = 200) :
    ∃ moves between, (Rebalance.compute r.rows r.targets).result w = (.ok moves, between) ∧
      response = answer [("moves", .list (moves.map LiquidityMove.toJson))] := by
  obtain ⟨ended, between, attempted, reported⟩ := of_bind_ok answered
  rw [result_attempt] at attempted
  obtain ⟨tried, left⟩ := Prod.mk.inj attempted
  cases ended with
  | ok given =>
      cases reported
      have planned : (do
          let moves ← Rebalance.compute r.rows r.targets
          return answer [("moves", .list (moves.map LiquidityMove.toJson))] :
            Engine Int ControlResponse).result w = (.ok response, after) :=
        Prod.ext (Except.ok.inj tried) left
      obtain ⟨moves, _, computed, given⟩ := of_bind_ok planned
      cases given
      exact ⟨moves, _, computed, rfl⟩
  | error f =>
      cases f with
      | failure e =>
          obtain ⟨_, _, _, reported⟩ := of_bind_ok reported
          cases reported
          cases accepted
      | refused | breakdown => cases reported

theorem readBody_gives {α : Type} {P : α → Prop} {decode : Decoder α}
    (h : ∀ j, Decoded.Gives P (decode j)) (body : RequestBody) :
    Decoded.Gives P (readBody decode body) := by
  cases body with
  | json v => exact h v
  | absent | plain | unreadable => exact Decoded.gives_problem _
  | malformed position =>
      intro a read
      cases read

/-- The withdrawals at a venue are covered by what it holds exactly if all of its overfull targets
    but one are, by what these are to hold together. The deposits are covered by the withdrawals
    exactly if the targets hold no less than they are to hold, when each is taken to hold what its
    venue does. Both is so where no venue has two targets and every venue that holds something has
    one. -/
theorem plan_fundable_iff (routed : route q = .ok .planRebalance)
    (answered : (handle q).result w = (.ok response, after)) (accepted : response.status = 200) :
    ∃ r moves, readBody (PlanRequest.decode .request) q.content = .value r ∧
      response.content = .value (.record [("moves", .list (moves.map LiquidityMove.toJson))]) ∧
      (∀ venue, removedAt venue moves ≤ r.holds venue ↔
        ((r.overfull venue).length - 1) * r.holds venue ≤ ((r.overfull venue).map r.aim).sum) ∧
      (together .add moves ≤ together .remove moves ↔
        (r.targets.map r.aim).sum ≤ (r.targets.map fun t => r.holds t.venue).sum) ∧
      ((∀ row ∈ r.current, 0 ≤ row.2) → (r.targets.map (·.venue)).Nodup →
        (∀ row ∈ r.current, row.2 ≠ 0 → row.1 ∈ r.targets.map (·.venue)) →
        (∀ venue, removedAt venue moves ≤ r.holds venue) ∧
          together .add moves ≤ together .remove moves) := by
  have reads : ControlRoute.planRebalance.readsBody = true := rfl
  obtain ⟨r, _, read, planned⟩ := of_handle_read reads rfl routed answered accepted
  obtain ⟨moves, _, computed, rfl⟩ := of_planRebalance_ok planned accepted
  obtain ⟨full, rfl, -⟩ := of_compute_ok computed
  have shares := readBody_gives (PlanRequest.decode_shares .request) q.content r read
  exact ⟨r, _, read, rfl, r.planned_fundable shares full (meets_filterMap _ _ _)⟩

/-- A request for a plan, from the operator. -/
structure AsksPlan (s : Settings Int) (r : PlanRequest) (q : ControlRequest) : Prop where
  method : q.method = "POST"
  path : q.path = "/rebalance/plan"
  token : q.carriesToken s = true
  body : readBody (PlanRequest.decode .request) q.content = .value r

theorem AsksPlan.routed {s : Settings Int} {r : PlanRequest} (asked : AsksPlan s r q) :
    route q = .ok .planRebalance := by
  have reads : ControlRoute.planRebalance.readsBody = true := rfl
  exact route_of_path reads asked.method asked.path

/-- The plan is answered with if its numbers can be written and the answer can be sent. -/
theorem result_handle_plan {r : PlanRequest} (asked : AsksPlan w.settings r q)
    (full : (r.targets.map (·.share)).sum = 100)
    (bound : Json.fieldsWritable w.journal.bound = true)
    (total : Numeral.isWritable (whole r.rows) = true)
    (count : Numeral.isWritable (planned r.rows r.targets).length = true)
    (sendable : (Json.record [("moves", .list ((planned r.rows r.targets).map
      LiquidityMove.toJson))]).checkSent = .ok ()) :
    ((handle q).result w).1 =
      .ok (answer [("moves", .list ((planned r.rows r.targets).map LiquidityMove.toJson))]) := by
  have reads : ControlRoute.planRebalance.readsBody = true := rfl
  obtain ⟨after, computed⟩ := compute_ok full bound total count
  have computed : (Rebalance.compute (r.current.map fun (venue, amount) =>
      (((venue, none) : Holder), amount)) r.targets).result w =
        (.ok (planned r.rows r.targets), after) := computed
  have planned : ((planRebalance r).result w).1 =
      .ok (answer [("moves", .list ((planned r.rows r.targets).map LiquidityMove.toJson))]) := by
    rw [planRebalance, rejecting, result_bind, result_attempt, result_bind]
    simp only [ofInt_int]
    rw [computed]
    rfl
  rw [result_handle_read reads rfl asked.method asked.path asked.token asked.body, planned,
    Except.ok_bind, sent, answer]
  dsimp only
  rw [sendable]
  rfl

/-- Whether a body is read as this request. -/
def isReadAs (r : PlanRequest) (body : RequestBody) : Bool :=
  match readBody (PlanRequest.decode .request) body with
  | .value found => found = r
  | _ => false

theorem of_isReadAs {r : PlanRequest} {body : RequestBody} (h : isReadAs r body = true) :
    readBody (PlanRequest.decode .request) body = .value r := by
  unfold isReadAs at h
  split at h
  · rename_i found read
    rw [read, of_decide_eq_true h]
  · cases h

/-- A request as an operator sends it. -/
def planQuery (r : PlanRequest) : ControlRequest :=
  { method := "POST", path := "/rebalance/plan"
    headers := [("content-type", "application/json"), ("authorization", "Bearer key")]
    body := r.toJson.canonical }

/-- An engine that is not halted, with an operator. -/
def planDesk : World Int := Delivery.steeredWorld (.text "key")

/-- One target at each venue that holds something. -/
def splitPlan : PlanRequest :=
  { current := [(.jupiter, 300), (.raydium, 700)]
    targets := [⟨.raydium, "A", 50⟩, ⟨.jupiter, "A", 50⟩] }

theorem splitPlan_fundable :
    ∃ response after moves, (handle (planQuery splitPlan)).result planDesk = (.ok response, after) ∧
      response.status = 200 ∧
      response.content = .value (.record [("moves", .list (moves.map LiquidityMove.toJson))]) ∧
      (∀ venue, removedAt venue moves ≤ splitPlan.holds venue) ∧
      together .add moves ≤ together .remove moves := by
  have small {n : Int} (bounds : -10000 ≤ n ∧ n ≤ 10000) : Numeral.isWritable n = true :=
    Numeral.isWritable_of_small (by omega) (by omega)
  have asked : AsksPlan planDesk.settings splitPlan (planQuery splitPlan) :=
    ⟨rfl, rfl, by decide +kernel, of_isReadAs (by decide +kernel)⟩
  have answered := result_handle_plan asked (by decide) rfl (small (by decide)) (small (by decide))
    (by decide +kernel)
  cases ended : (handle (planQuery splitPlan)).result planDesk with
  | mk first after =>
      rw [ended] at answered
      cases answered
      obtain ⟨r, moves, read, content, -, -, funded⟩ := plan_fundable_iff asked.routed ended rfl
      cases asked.body.symm.trans read
      obtain ⟨venues, total⟩ := funded (by decide) (by decide) (by decide)
      exact ⟨_, after, moves, rfl, rfl, content, venues, total⟩

/-- Three targets at the one venue that holds something. -/
def crowdedPlan : PlanRequest :=
  { current := [(.raydium, 1000)]
    targets := [⟨.raydium, "A", 40⟩, ⟨.raydium, "B", 30⟩, ⟨.raydium, "C", 30⟩] }

/-- A target at a venue other than the one that holds something. -/
def strayPlan : PlanRequest :=
  { current := [(.raydium, 1000)], targets := [⟨.jupiter, "A", 100⟩] }

/-- Two thousand are to be taken out where one thousand is held, and a thousand is to be put in with
    nothing taken out. -/
theorem plans_unfunded :
    (∃ moves, AsksPlan planDesk.settings crowdedPlan (planQuery crowdedPlan) ∧
      ((handle (planQuery crowdedPlan)).result planDesk).1 =
        .ok (answer [("moves", .list (moves.map LiquidityMove.toJson))]) ∧
      (∀ row ∈ crowdedPlan.current, 0 ≤ row.2) ∧
      crowdedPlan.holds .raydium = 1000 ∧ removedAt .raydium moves = 2000) ∧
    ∃ moves, AsksPlan planDesk.settings strayPlan (planQuery strayPlan) ∧
      ((handle (planQuery strayPlan)).result planDesk).1 =
        .ok (answer [("moves", .list (moves.map LiquidityMove.toJson))]) ∧
      (∀ row ∈ strayPlan.current, 0 ≤ row.2) ∧
      together .add moves = 1000 ∧ together .remove moves = 0 := by
  have small {n : Int} (bounds : -10000 ≤ n ∧ n ≤ 10000) : Numeral.isWritable n = true :=
    Numeral.isWritable_of_small (by omega) (by omega)
  have crowded : AsksPlan planDesk.settings crowdedPlan (planQuery crowdedPlan) :=
    ⟨rfl, rfl, by decide +kernel, of_isReadAs (by decide +kernel)⟩
  have stray : AsksPlan planDesk.settings strayPlan (planQuery strayPlan) :=
    ⟨rfl, rfl, by decide +kernel, of_isReadAs (by decide +kernel)⟩
  refine ⟨⟨_, crowded, result_handle_plan crowded (by decide) rfl (small (by decide))
    (small (by decide)) (by decide +kernel), by decide, by decide, by decide⟩, _, stray,
    result_handle_plan stray (by decide) rfl (small (by decide)) (small (by decide))
      (by decide +kernel), by decide, by decide, by decide⟩

end Control

end TradingEngine
