import TransisiDB.Proxy.CircuitBreaker

set_option autoImplicit false

/-!
# Runs of the circuit breaker

Properties of every interleaving of concurrent `Call`s and `Reset`s (`Calls.run`): the
request counters balance, and while `Closed` the failure count is the number of failures
recorded since the count last restarted.  `Calls.trace` lists the transitions of a run, so
that a property can speak of what happened since a given step.
-/

namespace TransisiDB.Proxy

open CircuitBreakerState

/-- The outcome an event records: `some true` for a success, `some false` for a failure. -/
def CallEvent.outcome : CallEvent → Option Bool
  | .afterRequest success _ => some success
  | _ => none

/-- Whether an event is a `Reset`. -/
def CallEvent.isReset : CallEvent → Bool
  | .reset _ => true
  | _ => false

namespace Calls

/-! ## The request counters -/

/-- Every `beforeRequest` is counted; its call was rejected, has finished, or is in flight. -/
def CountersBalanced (calls : Calls) : Prop :=
  calls.breaker.totalRequests = calls.breaker.totalSuccesses + calls.breaker.totalFailures +
    calls.breaker.totalRejections + calls.inFlight

theorem initial_countersBalanced (config : CircuitBreakerConfig) (now : Int) :
    (initial config now).CountersBalanced :=
  rfl

theorem step_countersBalanced {calls next : Calls} {event : CallEvent}
    (balanced : calls.CountersBalanced) (stepped : calls.step event = some next) :
    next.CountersBalanced := by
  unfold CountersBalanced at balanced ⊢
  cases event with
  | beforeRequest now =>
      simp only [step, Option.some.injEq] at stepped
      subst stepped
      simp only [CircuitBreaker.beforeRequest_totalRequests,
        CircuitBreaker.beforeRequest_totalSuccesses, CircuitBreaker.beforeRequest_totalFailures,
        CircuitBreaker.beforeRequest_totalRejections]
      split <;> omega
  | afterRequest success now =>
      simp only [step] at stepped
      split at stepped
      · cases stepped
      · cases stepped
        simp only [CircuitBreaker.afterRequest_totalRequests,
          CircuitBreaker.afterRequest_totalRejections, CircuitBreaker.afterRequest_totalSuccesses,
          CircuitBreaker.afterRequest_totalFailures]
        cases success <;> simp only [if_true, if_false, Bool.false_eq_true] <;> omega
  | reset now =>
      simp only [step, Option.some.injEq] at stepped
      subst stepped
      exact balanced

/-- `totalRequests` counts successes, failures, rejections and calls in flight. -/
theorem totalRequests_eq_of_run (config : CircuitBreakerConfig) (start : Int)
    (events : List CallEvent) {final : Calls}
    (ran : (initial config start).run events = some final) :
    final.breaker.totalRequests = final.breaker.totalSuccesses + final.breaker.totalFailures +
      final.breaker.totalRejections + final.inFlight :=
  run_preserves _ step_countersBalanced (initial_countersBalanced config start) ran

theorem totalRequests_eq_of_run_with_rejection :
    ∃ final, (initial ⟨1, 10, 1⟩ 0).run
        [.beforeRequest 0, .afterRequest false 0, .beforeRequest 5, .beforeRequest 11] =
          some final ∧
      final.breaker.totalRequests = final.breaker.totalSuccesses + final.breaker.totalFailures +
        final.breaker.totalRejections + final.inFlight :=
  ⟨_, rfl, totalRequests_eq_of_run ⟨1, 10, 1⟩ 0
    [.beforeRequest 0, .afterRequest false 0, .beforeRequest 5, .beforeRequest 11] rfl⟩

/-! ## Traces -/

/-- One step of a run: the state before, the event, and the state after. -/
structure Transition where
  before : Calls
  event : CallEvent
  after : Calls

/-- The transitions of a run, `none` if some step is not enabled. -/
def trace (calls : Calls) : List CallEvent → Option (List Transition)
  | [] => some []
  | event :: rest =>
      (calls.step event).bind fun next => (next.trace rest).map (⟨calls, event, next⟩ :: ·)

theorem trace_cons {calls : Calls} {event : CallEvent} {rest : List CallEvent}
    {ts : List Transition} (traced : calls.trace (event :: rest) = some ts) :
    ∃ next tail, calls.step event = some next ∧ next.trace rest = some tail ∧
      ts = ⟨calls, event, next⟩ :: tail := by
  obtain ⟨next, stepped, tracedRest⟩ := Option.bind_eq_some.mp traced
  obtain ⟨tail, tailTraced, rfl⟩ := Option.map_eq_some'.mp tracedRest
  exact ⟨next, tail, stepped, tailTraced, rfl⟩

/-- With `MaxRequests = 2`, one success of three admitted probes closes the breaker. -/
theorem halfOpen_closes_after_one_success :
    ((initial ⟨1, 10, 2⟩ 0).trace
        [.beforeRequest 0, .afterRequest false 0, .beforeRequest 11, .beforeRequest 11,
          .beforeRequest 11, .afterRequest true 12]).map
      (List.map fun t => (t.after.breaker.state, t.after.inFlight)) =
      some [(stateClosed, 1), (stateOpen, 0), (stateHalfOpen, 1), (stateHalfOpen, 2),
        (stateHalfOpen, 3), (stateClosed, 2)] := by
  decide

/-- `beforeRequest` measures the open period strictly, from the last failure. -/
theorem open_period_runs_from_last_failure :
    ((initial ⟨1, 10, 1⟩ 0).trace
        [.beforeRequest 1, .afterRequest false 1, .beforeRequest 11]).map
      (List.map fun t => (t.after.breaker.state, t.after.breaker.lastStateChange,
        t.after.breaker.lastFailureTime, t.after.inFlight)) =
      some [(stateClosed, 0, 0, 1), (stateOpen, 1, 1, 0), (stateOpen, 1, 1, 0)] ∧
    ((initial ⟨1, 10, 1⟩ 0).trace
        [.beforeRequest 1, .beforeRequest 1, .afterRequest false 1, .afterRequest false 6,
          .beforeRequest 13]).map
      (List.map fun t => (t.after.breaker.state, t.after.breaker.lastStateChange,
        t.after.breaker.lastFailureTime, t.after.inFlight)) =
      some [(stateClosed, 0, 0, 1), (stateClosed, 0, 0, 2), (stateOpen, 1, 1, 1),
        (stateOpen, 1, 6, 0), (stateOpen, 1, 6, 0)] := by
  decide

namespace Transition

/-- Whether the count of consecutive failures starts afresh after this transition. -/
def restartsCount (t : Transition) : Bool :=
  (t.after.breaker.state == stateClosed &&
      (t.before.breaker.state != stateClosed || t.event.isReset)) ||
    (t.event.outcome == some true && t.before.breaker.state == stateClosed)

/-- Whether the transition records a failure. -/
def recordsFailure (t : Transition) : Bool :=
  t.event.outcome == some false

end Transition

/-- The failures recorded since the count last restarted. -/
def failuresSince (ts : List Transition) : Nat :=
  ((ts.reverse.takeWhile fun t => !t.restartsCount).filter Transition.recordsFailure).length

theorem failuresSince_append_singleton (ts : List Transition) (t : Transition) :
    failuresSince (ts ++ [t]) =
      if t.restartsCount then 0 else failuresSince ts + if t.recordsFailure then 1 else 0 := by
  unfold failuresSince
  rw [List.reverse_append, List.reverse_singleton, List.singleton_append, List.takeWhile_cons]
  cases restarts : t.restartsCount <;> cases failure : t.recordsFailure <;>
    simp [List.filter_cons, restarts, failure]

/-- A `Closed` breaker holds in `failures` the `count` failures since the count restarted. -/
def CountsFailures (calls : Calls) (count : Nat) : Prop :=
  0 ≤ calls.breaker.failures ∧
    (calls.breaker.state = stateClosed →
      calls.breaker.failures = count ∧ (count : Int) < calls.breaker.config.maxFailures)

theorem step_countsFailures {calls next : Calls} {event : CallEvent} {count : Nat}
    (positive : 1 ≤ calls.breaker.config.maxFailures) (counts : calls.CountsFailures count)
    (stepped : calls.step event = some next) :
    let t : Transition := ⟨calls, event, next⟩
    let count' := if t.restartsCount then 0 else count + if t.recordsFailure then 1 else 0
    next.CountsFailures count' ∧
      (calls.breaker.state = stateClosed →
        (next.breaker.state ≠ stateClosed ↔ (count' : Int) = calls.breaker.config.maxFailures)) := by
  obtain ⟨nonnegative, closedCount⟩ := counts
  intro t count'
  cases event with
  | beforeRequest now =>
      simp only [step, Option.some.injEq] at stepped
      subst stepped
      have sameClosed := CircuitBreaker.beforeRequest_state_eq_closed calls.breaker now
      have unchanged : count' = count := by
        by_cases closed : calls.breaker.state = stateClosed <;>
          simp [count', t, Transition.restartsCount, Transition.recordsFailure,
            CallEvent.outcome, CallEvent.isReset, closed, sameClosed]
      rw [unchanged]
      refine ⟨⟨by simpa using nonnegative, fun closed => ?_⟩, fun closed => ?_⟩
      · simpa using closedCount (sameClosed.mp closed)
      · have below := (closedCount closed).2
        simp only [sameClosed.mpr closed, ne_eq, not_true_eq_false, false_iff]
        omega
  | afterRequest success now =>
      simp only [step] at stepped
      split at stepped
      · cases stepped
      · cases stepped
        cases success with
        | true =>
            have success : calls.breaker.afterRequest true now = calls.breaker.onSuccess now := rfl
            have restarted : (calls.breaker.onSuccess now).state = stateClosed → count' = 0 :=
              fun closed => by
                by_cases before : calls.breaker.state = stateClosed <;>
                  simp [count', t, Transition.restartsCount, CallEvent.outcome, success, closed,
                    before]
            have stays : calls.breaker.state = stateClosed →
                (calls.breaker.onSuccess now).state = stateClosed := fun closed => by
              simp [CircuitBreaker.onSuccess_state, closed]
            refine ⟨⟨?_, fun closed => ?_⟩, fun closed => ?_⟩
            · show 0 ≤ (calls.breaker.onSuccess now).failures
              rcases CircuitBreaker.onSuccess_failures calls.breaker now with zero | same <;> omega
            · change (calls.breaker.onSuccess now).state = stateClosed at closed
              rw [restarted closed]
              exact ⟨CircuitBreaker.onSuccess_failures_of_closed _ _ closed nonnegative,
                by simpa using positive⟩
            · change (calls.breaker.onSuccess now).state ≠ stateClosed ↔ _
              rw [restarted (stays closed)]
              simp only [stays closed, ne_eq, not_true_eq_false, false_iff]
              omega
        | false =>
            have failure : calls.breaker.afterRequest false now = calls.breaker.onFailure now := rfl
            have state := CircuitBreaker.onFailure_state calls.breaker now
            have failures := CircuitBreaker.onFailure_failures calls.breaker now
            have counted : count' = count + 1 := by
              by_cases before : calls.breaker.state = stateClosed <;>
                simp [count', t, Transition.restartsCount, Transition.recordsFailure,
                  CallEvent.outcome, CallEvent.isReset, failure, state, before]
            rw [counted]
            refine ⟨⟨?_, fun closed => ?_⟩, fun closed => ?_⟩
            · show 0 ≤ (calls.breaker.onFailure now).failures
              omega
            · change (calls.breaker.onFailure now).state = stateClosed at closed
              rw [state] at closed
              split at closed
              · rename_i below
                have same := (closedCount below.1).1
                refine ⟨?_, ?_⟩ <;>
                  simp only [failure, failures, CircuitBreaker.onFailure_config] <;> omega
              · cases closed
            · obtain ⟨same, below⟩ := closedCount closed
              change (calls.breaker.onFailure now).state ≠ stateClosed ↔ _
              rw [state]
              split_ifs with stillBelow <;>
                simp only [ne_eq, not_true_eq_false, reduceCtorEq, not_false_eq_true, false_iff,
                  true_iff] <;>
                simp only [closed, true_and] at stillBelow <;> omega
  | reset now =>
      simp only [step, Option.some.injEq] at stepped
      subst stepped
      have restarted : count' = 0 := by
        simp [count', t, Transition.restartsCount, CallEvent.isReset]
      rw [restarted]
      refine ⟨⟨le_rfl, fun _ => ⟨rfl, by simpa using positive⟩⟩, fun _ => ?_⟩
      simp only [CircuitBreaker.reset_state, ne_eq, not_true_eq_false, false_iff]
      omega

theorem trace_countsFailures {calls : Calls} {pre : List Transition}
    (positive : 1 ≤ calls.breaker.config.maxFailures)
    (counts : calls.CountsFailures (failuresSince pre))
    {events : List CallEvent} {ts : List Transition} (traced : calls.trace events = some ts)
    (mid : List Transition) (t : Transition) (post : List Transition)
    (position : ts = mid ++ t :: post) :
    t.after.breaker.config = calls.breaker.config ∧
      t.after.CountsFailures (failuresSince (pre ++ mid ++ [t])) ∧
      (t.before.breaker.state = stateClosed →
        (t.after.breaker.state ≠ stateClosed ↔
          (failuresSince (pre ++ mid ++ [t]) : Int) = calls.breaker.config.maxFailures)) := by
  induction events generalizing calls pre ts mid with
  | nil =>
      simp only [trace, Option.some.injEq] at traced
      subst traced
      exact absurd position.symm (List.append_ne_nil_of_right_ne_nil _ (List.cons_ne_nil _ _))
  | cons event rest inductionHypothesis =>
      obtain ⟨next, tail, stepped, tracedRest, rfl⟩ := trace_cons traced
      have stepFacts := step_countsFailures positive counts stepped
      dsimp only at stepFacts
      rw [← failuresSince_append_singleton] at stepFacts
      cases mid with
      | nil =>
          obtain ⟨rfl, rfl⟩ := List.cons.inj position
          simpa using ⟨step_config stepped, stepFacts⟩
      | cons first mid =>
          obtain ⟨rfl, inTail⟩ := List.cons.inj position
          have later := inductionHypothesis (step_config stepped ▸ positive) stepFacts.1 tracedRest
            mid inTail
          rw [step_config stepped] at later
          simpa [List.append_assoc] using later

/-- A `Closed` breaker counts the failures since its count restarted, under `MaxFailures`. -/
theorem closed_failures_since_restart (config : CircuitBreakerConfig) (start : Int)
    (positive : 1 ≤ config.maxFailures) (events : List CallEvent) {ts : List Transition}
    (traced : (initial config start).trace events = some ts)
    (pre : List Transition) (t : Transition) (post : List Transition)
    (position : ts = pre ++ t :: post) :
    (t.after.breaker.state = stateClosed →
        t.after.breaker.failures = failuresSince (pre ++ [t]) ∧
          (failuresSince (pre ++ [t]) : Int) < config.maxFailures) ∧
      (t.before.breaker.state = stateClosed →
        (t.after.breaker.state ≠ stateClosed ↔
          (failuresSince (pre ++ [t]) : Int) = config.maxFailures)) := by
  have initially : (initial config start).CountsFailures (failuresSince []) :=
    ⟨le_rfl, fun _ => ⟨rfl, by simpa [failuresSince] using positive⟩⟩
  obtain ⟨sameConfig, ⟨-, closedCount⟩, leaves⟩ :=
    trace_countsFailures positive initially traced pre t post position
  rw [sameConfig] at closedCount
  simpa using ⟨closedCount, leaves⟩

theorem closed_failures_since_restart_first_failure :
    ∃ ts, (initial ⟨2, 10, 1⟩ 0).trace [.beforeRequest 0, .afterRequest false 0] = some ts ∧
      ∃ (pre : List Transition) (t : Transition) (post : List Transition),
        ts = pre ++ t :: post ∧
        (t.after.breaker.state = stateClosed →
            t.after.breaker.failures = (failuresSince (pre ++ [t]) : Int) ∧
              (failuresSince (pre ++ [t]) : Int) < (2 : Int)) ∧
          (t.before.breaker.state = stateClosed →
            (t.after.breaker.state ≠ stateClosed ↔ (failuresSince (pre ++ [t]) : Int) = 2)) :=
  ⟨_, rfl, [_], _, [], rfl, closed_failures_since_restart ⟨2, 10, 1⟩ 0 (by decide)
    [.beforeRequest 0, .afterRequest false 0] rfl _ _ _ rfl⟩

end Calls

end TransisiDB.Proxy
