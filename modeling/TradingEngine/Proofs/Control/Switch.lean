import Mathlib.Logic.Function.Iterate
import TradingEngine.Control.Delivery
import TradingEngine.Proofs.Except
import TradingEngine.Proofs.Frame

/-! # Who can turn the halt switch over

Of all requests that can reach the control surface only one kind turns the switch over: a `POST` to
the path of the toggle that carries the operator's token. A request may be sent on by a redirection
before it arrives there, and whatever else is asked for leaves the switch as it is. So after any
sequence of requests the switch stands as at first, turned over once for each request of that kind.
-/

namespace TradingEngine

open Engine Quantity

variable {ν α : Type}

/-- The operator's token in words, if there is one. -/
def Settings.token? (s : Settings ν) : Option Text := do
  let token ← s.controlApiToken.held.toOption
  if token.truthy then token.inWords.toOption else none

namespace ControlRequest

/-- Whether a request asks for the toggle. A line break behind its path does not matter. -/
def isToggle (r : ControlRequest) : Bool :=
  r.method == "POST" && (r.path == "/kill/toggle" || r.path == "/kill/toggle\n")

/-- Whether a request carries the operator's token. Without a token none does. -/
def carriesToken (s : Settings ν) (r : ControlRequest) : Bool :=
  match s.token?, r.header? "authorization" with
  | some token, some header => Text.ofString header == "Bearer " ++ token
  | _, _ => false

theorem carriesToken_of_unset {s : Settings ν} (unset : s.controlApiToken.truthy = false)
    (r : ControlRequest) : r.carriesToken s = false := by
  have none : s.token? = none := by
    simp only [Settings.token?, Json.held]
    split <;> simp [Except.toOption, unset]
  simp [carriesToken, none]

end ControlRequest

namespace HaltSwitch

/-- A reason in words halts trading, whether it can be noted and journalled or not. -/
theorem activate_halts (reason : Text) (w : World ν) :
    ((activate (.text reason)).result w).2.halt.isSome ∧
      ((activate (.text reason)).result w).2.settings = w.settings := by
  have words : (Json.text reason).inWords = .ok (Json.text reason).shown := rfl
  simp only [activate]
  rw [result_bind, result_ofExcept, words]
  dsimp only
  split
  · exact ⟨rfl, rfl⟩
  · have logged := log_journalled .critical "KILL_SWITCH_ACTIVATED" [("reason", .text reason)]
      { w with halt := some (note (Json.text reason).shown) }
    rw [result_bind, result_modify]
    dsimp only
    exact ⟨by rw [logged.halt]; rfl, logged.settings⟩

theorem deactivate_frees {w : World ν} (halted : w.halt.isSome) :
    (deactivate.result w).2.halt = none ∧ (deactivate.result w).2.settings = w.settings := by
  have logged := log_journalled .warning "KILL_SWITCH_DEACTIVATED" [] { w with halt := none }
  simp only [deactivate, isActive, bind_assoc, pure_bind]
  rw [result_bind, result_get]
  dsimp only
  rw [if_pos halted, result_bind, result_modify]
  exact ⟨logged.halt, logged.settings⟩

end HaltSwitch

namespace Control

theorem denial?_eq_none_iff (s : Settings ν) (r : ControlRequest) :
    denial? s r = .ok none ↔ r.carriesToken s = true := by
  simp only [denial?, ControlRequest.carriesToken, Settings.token?]
  cases s.controlApiToken.held with
  | error b =>
      refine iff_of_false (fun granted => ?_) fun carried => ?_
      · cases granted
      · cases carried
  | ok token =>
      rw [Except.mapError_ok, Except.ok_bind, Except.toOption_ok, Option.bind_eq_bind,
        Option.bind_some]
      cases token.truthy with
      | false =>
          refine iff_of_false (fun granted => ?_) fun carried => ?_
          · cases granted
          · cases carried
      | true =>
          cases token.inWords with
          | error f =>
              refine iff_of_false (fun granted => ?_) fun carried => ?_
              · cases granted
              · cases carried
          | ok words =>
              cases r.header? "authorization" with
              | none =>
                  refine iff_of_false (fun granted => ?_) fun carried => ?_
                  · cases granted
                  · cases carried
              | some header =>
                  by_cases same : Text.ofString header = "Bearer " ++ words
                  · exact iff_of_true (if_pos (congrArg some same)) (beq_iff_eq.mpr same)
                  · refine iff_of_false (fun granted => ?_) fun carried =>
                      same (beq_iff_eq.mp carried)
                    simp only [Bool.not_true, Bool.false_eq_true, if_false, Except.ok_bind,
                      Option.map_some, Option.some.injEq, if_neg same] at granted
                    cases granted

/-- The toggle is found by its path and answers to one method. -/
theorem route_toggle_iff (r : ControlRequest) :
    redirection? r = none ∧ route r = .ok .toggleHalt ↔ r.isToggle = true := by
  simp only [ControlRequest.isToggle, Bool.and_eq_true, Bool.or_eq_true, beq_iff_eq]
  constructor
  · rintro ⟨_, routed⟩
    simp only [route] at routed
    cases candidates : ControlRoute.all.filter (leadsTo r.path) with
    | nil => simp [candidates] at routed
    | cons first rest =>
        simp only [candidates] at routed
        cases found : (first :: rest).find? (·.methods.contains r.method) with
        | none =>
            rw [found] at routed
            cases routed
        | some target =>
            rw [found] at routed
            cases routed
            have among := List.mem_of_find?_eq_some found
            rw [← candidates, List.mem_filter] at among
            refine ⟨by simpa [ControlRoute.methods] using List.find?_some found, ?_⟩
            simpa [leadsTo, ControlRoute.path] using among.2
  · rintro ⟨method, path⟩
    have stays : canonicalPath r.path = r.path := by
      rcases path with path | path <;>
        · rw [path]
          decide
    have candidates : ControlRoute.all.filter (leadsTo r.path) = [.toggleHalt] := by
      rcases path with path | path <;>
        · rw [path]
          decide
    constructor
    · simp [redirection?, stays]
    · simp [route, candidates, method, ControlRoute.methods]

/-! ### What is left alone -/

/-- An operation that takes notes at most, and whose response sends nobody on. -/
structure Answers (op : Engine ν ControlResponse) : Prop where
  noted : Within World.Noted op
  final : ∀ w response after, op.result w = (.ok response, after) → response.location = none

theorem answers_pure {response : ControlResponse} (final : response.location = none) :
    Answers (pure response : Engine ν ControlResponse) where
  noted := within_pure response
  final w other after h := by
    cases h
    exact final

theorem answers_fault (f : Fault) : Answers (fault f : Engine ν ControlResponse) where
  noted := within_fault f
  final w response after h := by cases h

theorem answers_bind {op : Engine ν α} {next : α → Engine ν ControlResponse}
    (first : Within World.Noted op) (rest : ∀ a, Answers (next a)) : Answers (op >>= next) where
  noted := within_bind first fun a => (rest a).noted
  final w response after h := by
    obtain ⟨a, between, _, h⟩ := of_bind_ok h
    exact (rest a).final between response after h

theorem rejecting_answers {op : Engine ν ControlResponse} (h : Answers op) :
    Answers (rejecting op) where
  noted := by
    refine within_bind (within_attempt h.noted) fun ended => ?_
    cases ended with
    | ok response => exact within_pure response
    | error f =>
        cases f with
        | failure e => exact within_bind (log_noted _ _ _ (by decide)) fun _ => within_pure _
        | refused | breakdown => exact within_fault _
  final w response after reported := by
    simp only [rejecting] at reported
    rw [result_bind, result_attempt] at reported
    cases ended : op.result w with
    | mk r between =>
        rw [ended] at reported
        cases r with
        | ok answered =>
            cases reported
            exact h.final w _ _ ended
        | error f =>
            cases f with
            | failure e =>
                obtain ⟨_, _, _, reported⟩ := of_bind_ok reported
                cases reported
                rfl
            | refused | breakdown => cases reported

theorem withRecord_answers {decode : Decoder α} {body : RequestBody}
    {answer : α → Engine ν ControlResponse} (h : ∀ record, Answers (answer record)) :
    Answers (withRecord decode body answer) := by
  unfold withRecord
  cases readBody decode body with
  | value record => exact h record
  | broken b => exact answers_fault _
  | problems ps => exact answers_bind (within_ofBreakdown _) fun _ => answers_pure rfl

variable [Quantity ν]

theorem routesOf_noted (r : ScanRequest) : Within World.Noted (routesOf r : Engine ν _) :=
  within_bind (orClock_noted _) fun _ => within_bind within_settings fun _ =>
    within_bind (within_ofExcept _) fun _ =>
      within_bind (PriceQuote.validateAll_noted _ _ _ _ _) fun _ =>
        within_bind (within_ofExcept _) fun search =>
          within_bind (search.find_noted _ _ _ _) fun _ => within_ofExcept _

theorem scanRoutes_answers (r : ScanRequest) : Answers (scanRoutes r : Engine ν _) :=
  rejecting_answers <| answers_bind (routesOf_noted r) fun _ =>
    answers_bind (log_noted _ _ _ (by decide)) fun _ => answers_pure rfl

theorem planRebalance_answers (r : PlanRequest) : Answers (planRebalance r : Engine ν _) :=
  rejecting_answers <| answers_bind (Rebalance.compute_noted _ _) fun _ => answers_pure rfl

theorem serve_answers (r : ControlRequest) {route : ControlRoute} (other : route ≠ .toggleHalt) :
    Answers (serve r route : Engine ν ControlResponse) := by
  cases route with
  | manual page => exact answers_pure rfl
  | health => exact answers_bind HaltSwitch.isActive_noted fun _ => answers_pure rfl
  | toggleHalt => exact absurd rfl other
  | scanRoutes => exact withRecord_answers scanRoutes_answers
  | planRebalance => exact withRecord_answers planRebalance_answers

/-! ### What the switch does -/

/-- How a response leaves the world: with the switch turned over, or as it was. -/
structure Leaves (turned : Bool) (w : World ν) (r : Except Fault ControlResponse × World ν) :
    Prop where
  settings : r.2.settings = w.settings
  halt : if turned then r.2.halt.isSome = !w.halt.isSome else r.2.halt = w.halt
  final : ∀ response, r.1 = .ok response → response.location = none

omit [Quantity ν] in
theorem Answers.leaves {op : Engine ν ControlResponse} (h : Answers op) (w : World ν) :
    Leaves false w (op.result w) where
  settings := (h.noted w).settings
  halt := (h.noted w).halt
  final response answered := h.final w response (op.result w).2 (Prod.ext answered rfl)

omit [Quantity ν] in
theorem toggleHalt_leaves (reason : String) (w : World ν) :
    Leaves true w ((toggleHalt reason).result w) := by
  have answered (op : Engine ν Unit) (halt : (op.result w).2.halt.isSome = !w.halt.isSome)
      (settings : (op.result w).2.settings = w.settings) : Leaves true w ((do
        op
        return answer [("kill_switch_active", .bool (← HaltSwitch.isActive))]).result w) := by
    rw [result_bind]
    cases ended : op.result w with
    | mk r after =>
        rw [ended] at halt settings
        cases r with
        | ok _ => exact ⟨settings, halt, fun _ h => by cases h; rfl⟩
        | error f => exact ⟨settings, halt, fun _ h => nomatch h⟩
  simp only [toggleHalt]
  rw [result_bind, HaltSwitch.result_isActive]
  dsimp only
  split
  · rename_i halted
    obtain ⟨freed, settings⟩ := HaltSwitch.deactivate_frees halted
    exact answered _ (by rw [freed, halted]; rfl) settings
  · rename_i running
    rw [Bool.not_eq_true] at running
    obtain ⟨set, settings⟩ := HaltSwitch.activate_halts
      (if reason = "" then "manual override" else reason) w
    exact answered _ (by rw [set, running]; rfl) settings

/-- Behind the check of the token a route is served. -/
theorem result_guarded (r : ControlRequest) (route : ControlRoute) (w : World ν) :
    ((do
      if let some denial ← Engine.ofExcept (denial? (← Engine.settings) r) then
        return denial.response
      serve r route : Engine ν ControlResponse).result w) =
      match denial? w.settings r with
      | .error f => (.error f, w)
      | .ok (some denial) => (.ok denial.response, w)
      | .ok none => (serve r route).result w := by
  rw [result_bind, result_settings]
  dsimp only
  rw [result_bind, result_ofExcept]
  cases denial? w.settings r with
  | error f => rfl
  | ok denied => cases denied <;> rfl

theorem answerRoute_leaves (r : ControlRequest) (route : ControlRoute) (w : World ν) :
    Leaves (route == .toggleHalt && r.carriesToken w.settings) w
      ((answerRoute r route).result w) := by
  by_cases toggle : route = .toggleHalt
  · subst toggle
    have guarded : (answerRoute r .toggleHalt).result w = _ := result_guarded r .toggleHalt w
    rw [guarded]
    have carries := denial?_eq_none_iff w.settings r
    cases judged : denial? w.settings r with
    | error f =>
        rw [judged] at carries
        rw [Bool.eq_false_iff.mpr fun h => nomatch carries.mpr h]
        exact ⟨rfl, rfl, fun _ h => nomatch h⟩
    | ok denied =>
        cases denied with
        | some denial =>
            rw [judged] at carries
            rw [Bool.eq_false_iff.mpr fun h => nomatch carries.mpr h]
            exact ⟨rfl, rfl, fun _ h => by cases h; rfl⟩
        | none =>
            rw [carries.mp judged]
            exact toggleHalt_leaves _ w
  · have other : (route == .toggleHalt) = false := by simpa using toggle
    have answers : Answers (answerRoute r route : Engine ν ControlResponse) := by
      simp only [answerRoute]
      split
      · exact answers_pure rfl
      · exact answers_pure rfl
      · split
        · refine answers_bind within_settings fun s =>
            answers_bind (within_ofExcept _) fun denied => ?_
          cases denied with
          | none => exact serve_answers r toggle
          | some denial => exact answers_pure rfl
        · exact serve_answers r toggle
    rw [other]
    exact answers.leaves w

omit [Quantity ν] in
theorem send_answers (r : ControlRequest) {response : ControlResponse}
    (final : response.location = none) : Answers (send r response : Engine ν ControlResponse) := by
  have sent : Answers (pure (if r.method = "HEAD" then
      { response with content := .value (.text "") } else response) : Engine ν ControlResponse) := by
    split <;> exact answers_pure final
  unfold send
  cases response.content with
  | value v => exact answers_bind (within_ofBreakdown _) fun _ => sent
  | problems ps => exact sent

omit [Quantity ν] in
theorem not_toggle_of_redirection {r : ControlRequest} {location : String}
    (moved : redirection? r = some location) : r.isToggle = false := by
  refine Bool.eq_false_iff.mpr fun toggle => ?_
  rw [((route_toggle_iff r).mpr toggle).1] at moved
  cases moved

theorem handle_of_redirection {r : ControlRequest} {location : String}
    (moved : redirection? r = some location) (w : World ν) :
    (handle r).result w = (.ok ⟨307, .value .null, some location⟩, w) := by
  simp only [handle, moved]
  rfl

/-- The answer to a request that is not redirected sends nobody on. It turns the switch over if the
    request is for the toggle and carries the token. -/
theorem handle_leaves {r : ControlRequest} (stays : redirection? r = none) (w : World ν) :
    Leaves (r.isToggle && r.carriesToken w.settings) w ((handle r).result w) := by
  have toggle := route_toggle_iff r
  rw [stays, and_iff_right rfl] at toggle
  simp only [handle, stays]
  cases routed : route r with
  | error denial =>
      have other : r.isToggle = false := Bool.eq_false_iff.mpr fun h => by
        cases routed.symm.trans (toggle.mpr h)
      rw [other]
      exact (send_answers r (show denial.response.location = none from rfl)).leaves w
  | ok target =>
      have same : r.isToggle = (target == .toggleHalt) := by
        rw [Bool.eq_iff_iff, ← toggle, routed]
        simp
      have left := answerRoute_leaves r target w
      rw [← same] at left
      dsimp only
      rw [result_bind]
      cases answered : (answerRoute r target).result w with
      | mk ended after =>
          rw [answered] at left
          cases ended with
          | error f => exact ⟨left.settings, left.halt, fun _ h => nomatch h⟩
          | ok response =>
              have sent := (send_answers r (left.final response rfl)).leaves after
              have halt := left.halt
              refine ⟨sent.settings.trans left.settings, ?_, sent.final⟩
              dsimp only
              rw [sent.halt]
              exact halt

end Control

namespace Delivery

/-- The requests that arrive at the control surface when one is sent to an address, in their order.
    It takes redirections to have more than one of them. -/
def arrivals : Nat → Address → ControlRequest → List ControlRequest
  | 0, _, _ => []
  | times + 1, a, r =>
    match a.checkSent with
    | .error _ => []
    | .ok () =>
      r :: match Control.redirection? r with
        | none => []
        | some location =>
          match follow a location with
          | .error _ => []
          | .ok next => arrivals times next (r.sentOn a next)

/-- Whether a request that is sent to an address arrives at the toggle with the operator's token. -/
def turnsOver (s : Settings ν) (a : Address) (r : ControlRequest) : Bool :=
  (arrivals limit a (r.addressed a)).any fun arrived => arrived.isToggle && arrived.carriesToken s

variable [Quantity ν]

/-- How the world stands after a request was sent: with the switch turned over, or as it was. -/
def Stands (turned : Bool) (w after : World ν) : Prop :=
  after.settings = w.settings ∧
    if turned then after.halt.isSome = !w.halt.isSome else after.halt = w.halt

theorem send_stands (times : Nat) (a : Address) (r : ControlRequest) (w : World ν) :
    Stands ((arrivals times a r).any fun arrived =>
      arrived.isToggle && arrived.carriesToken w.settings) w ((send times a r).result w).2 := by
  induction times generalizing a r w with
  | zero => exact ⟨rfl, rfl⟩
  | succ times ih =>
      simp only [send, arrivals]
      cases a.checkSent with
      | error b => exact ⟨rfl, rfl⟩
      | ok _ =>
          have sendable : (ofBreakdown (.ok ()) : Engine ν Unit).result w = (.ok (), w) := rfl
          rw [result_bind, sendable]
          dsimp only
          rw [result_bind]
          cases moved : Control.redirection? r with
          | some location =>
              rw [Control.handle_of_redirection moved]
              dsimp only
              rw [List.any_cons, Control.not_toggle_of_redirection moved, Bool.false_and,
                Bool.false_or]
              cases follow a location with
              | error b => exact ⟨rfl, rfl⟩
              | ok next => exact ih next (r.sentOn a next) w
          | none =>
              have left := Control.handle_leaves moved w
              rw [List.any_cons, List.any_nil, Bool.or_false]
              cases answered : (Control.handle r).result w with
              | mk ended after =>
                  rw [answered] at left
                  cases ended with
                  | error f => exact ⟨left.settings, left.halt⟩
                  | ok response =>
                      dsimp only
                      rw [left.final response rfl]
                      exact ⟨left.settings, left.halt⟩

/-- Sends one request after the other, each to its address. -/
def deliverAll (requests : List (Address × ControlRequest)) :
    Engine ν (List (Except Fault ControlResponse)) :=
  requests.mapM fun (a, r) => (deliver a r).attempt

theorem deliverAll_cons (a : Address) (r : ControlRequest) (rest : List (Address × ControlRequest))
    (w : World ν) :
    ((deliverAll ((a, r) :: rest)).result w).2 =
      ((deliverAll rest).result ((deliver a r).result w).2).2 := by
  rw [deliverAll, List.mapM_cons, result_bind, result_attempt]
  dsimp only
  rw [result_bind]
  cases reached : (rest.mapM fun (a, r) => (deliver a r).attempt).result
      ((deliver a r).result w).2 with
  | mk ended after =>
      rw [deliverAll, reached]
      cases ended <;> rfl

theorem deliverAll_stands (requests : List (Address × ControlRequest)) (w : World ν) :
    ((deliverAll requests).result w).2.halt.isSome =
      not^[requests.countP fun q => turnsOver w.settings q.1 q.2] w.halt.isSome ∧
    ((∀ q ∈ requests, turnsOver w.settings q.1 q.2 = false) →
      ((deliverAll requests).result w).2.halt = w.halt) := by
  induction requests generalizing w with
  | nil => exact ⟨rfl, fun _ => rfl⟩
  | cons q rest ih =>
      obtain ⟨a, r⟩ := q
      obtain ⟨settings, halt⟩ : Stands (turnsOver w.settings a r) w ((deliver a r).result w).2 :=
        send_stands limit a (r.addressed a) w
      obtain ⟨counted, kept⟩ := ih ((deliver a r).result w).2
      rw [settings] at counted kept
      rw [deliverAll_cons, List.countP_cons]
      constructor
      · rw [counted]
        dsimp only
        cases turned : turnsOver w.settings a r with
        | false =>
            rw [turned] at halt
            rw [show ((deliver a r).result w).2.halt = w.halt from halt]
            rfl
        | true =>
            rw [turned] at halt
            rw [show ((deliver a r).result w).2.halt.isSome = !w.halt.isSome from halt,
              if_pos rfl, Function.iterate_succ_apply]
      · intro untouched
        obtain ⟨first, others⟩ := List.forall_mem_cons.mp untouched
        rw [kept others]
        rw [first] at halt
        exact halt

omit [Quantity ν] in
theorem turnsOver_of_unset {s : Settings ν} (unset : s.controlApiToken.truthy = false)
    (a : Address) (r : ControlRequest) : turnsOver s a r = false := by
  rw [turnsOver, List.any_eq_false]
  intro arrived _
  rw [ControlRequest.carriesToken_of_unset unset, Bool.and_false]
  exact Bool.false_ne_true

/-- After any sequence of requests the switch stands as at first, turned over once for each of them
    that arrived at the toggle with the operator's token. Without such a request nothing about it has
    changed, and without a token no request can change it. -/
theorem switch_after_requests (requests : List (Address × ControlRequest)) (w : World ν) :
    let after := ((deliverAll requests).result w).2
    after.halt.isSome =
      not^[requests.countP fun q => turnsOver w.settings q.1 q.2] w.halt.isSome ∧
    ((∀ q ∈ requests, turnsOver w.settings q.1 q.2 = false) → after.halt = w.halt) ∧
    (w.settings.controlApiToken.truthy = false → after.halt = w.halt) := by
  obtain ⟨counted, kept⟩ := deliverAll_stands requests w
  exact ⟨counted, kept, fun unset => kept fun q _ => turnsOver_of_unset unset q.1 q.2⟩

/-- An engine that an operator with this token may steer. -/
def steeredWorld (token : Json) : World Int :=
  { settings := { (.standard : Settings Int) with controlApiToken := token }
    journal := { threshold := 60 } }

/-- The address of a path on the control surface. -/
def desk (path : String) : Address :=
  { scheme := "http", host := "testserver", target := path.toList }

/-- A request for a path with this header. -/
def desired (path header : String) : Address × ControlRequest :=
  (desk path, { method := "POST", path, headers := [("Authorization", header)] })

/-- The toggle, the toggle with a slash behind it, the toggle without the token, and something else
    with the token. -/
def shift : List (Address × ControlRequest) :=
  [desired "/kill/toggle" "Bearer key", desired "/kill/toggle/" "Bearer key",
    desired "/kill/toggle" "bearer key", desired "/routes/scan" "Bearer key",
    desired "/kill/toggle" "Bearer key"]

theorem shift_turns_three_times :
    ((deliverAll shift).result (steeredWorld (.text "key"))).2.halt.isSome ∧
      ((deliverAll shift).result (steeredWorld (.text ""))).2.halt = none := by
  have counted : shift.countP (fun q =>
      turnsOver (steeredWorld (.text "key")).settings q.1 q.2) = 3 := by
    decide +kernel
  constructor
  · rw [(switch_after_requests shift _).1, counted]
    rfl
  · exact (switch_after_requests shift _).2.2 rfl

end Delivery

end TradingEngine
