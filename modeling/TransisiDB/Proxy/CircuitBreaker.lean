import Mathlib.Data.List.Basic
import Mathlib.Order.MinMax

set_option autoImplicit false

/-!
# The circuit breaker

`internal/proxy/circuit_breaker.go`.  Time is an integer clock, `time.Since(t)` is
`now - t`, and the metric counters are unbounded naturals.

`CircuitBreaker.Call` runs `beforeRequest`, then the guarded function without the lock,
then `afterRequest`.  Concurrent calls therefore interleave at the granularity of those two
critical sections: `Calls` is the breaker together with the calls admitted and not yet
finished, and `Calls.step` takes one critical section of one call, or a `Reset`.
-/

namespace TransisiDB.Proxy

inductive CircuitBreakerState where
  | stateClosed
  | stateOpen
  | stateHalfOpen
  deriving DecidableEq, Repr

open CircuitBreakerState

structure CircuitBreakerConfig where
  maxFailures : Int
  timeout : Int
  maxRequests : Int
  deriving DecidableEq, Repr

/-- `CircuitBreaker`, the fields behind its mutex. -/
structure CircuitBreaker where
  config : CircuitBreakerConfig
  state : CircuitBreakerState
  failures : Int
  lastFailureTime : Int
  lastStateChange : Int
  halfOpenRequests : Int
  totalRequests : Nat
  totalSuccesses : Nat
  totalFailures : Nat
  totalRejections : Nat
  deriving DecidableEq, Repr

namespace CircuitBreaker

/-- `NewCircuitBreaker` at time `now`. -/
def new (config : CircuitBreakerConfig) (now : Int) : CircuitBreaker :=
  { config, state := stateClosed, failures := 0, lastFailureTime := 0,
    lastStateChange := now, halfOpenRequests := 0, totalRequests := 0,
    totalSuccesses := 0, totalFailures := 0, totalRejections := 0 }

/-- `setState`: a change of state records its time. -/
def setState (cb : CircuitBreaker) (state : CircuitBreakerState) (now : Int) :
    CircuitBreaker :=
  if cb.state ≠ state then { cb with state, lastStateChange := now } else cb

@[simp]
theorem setState_state (cb : CircuitBreaker) (state : CircuitBreakerState) (now : Int) :
    (cb.setState state now).state = state := by
  unfold setState
  split <;> simp_all

@[simp]
theorem setState_halfOpenRequests (cb : CircuitBreaker) (state : CircuitBreakerState)
    (now : Int) : (cb.setState state now).halfOpenRequests = cb.halfOpenRequests := by
  unfold setState
  split <;> rfl

@[simp]
theorem setState_config (cb : CircuitBreaker) (state : CircuitBreakerState) (now : Int) :
    (cb.setState state now).config = cb.config := by
  unfold setState
  split <;> rfl

/-- `beforeRequest`: the breaker after the check, and whether the call may run. -/
def beforeRequest (cb : CircuitBreaker) (now : Int) : CircuitBreaker × Bool :=
  let cb := { cb with totalRequests := cb.totalRequests + 1 }
  match cb.state with
  | stateClosed => (cb, true)
  | stateOpen =>
      if now - cb.lastFailureTime > cb.config.timeout then
        ({ (cb.setState stateHalfOpen now) with halfOpenRequests := 0 }, true)
      else ({ cb with totalRejections := cb.totalRejections + 1 }, false)
  | stateHalfOpen =>
      if cb.halfOpenRequests ≥ cb.config.maxRequests then
        ({ cb with totalRejections := cb.totalRejections + 1 }, false)
      else ({ cb with halfOpenRequests := cb.halfOpenRequests + 1 }, true)

def onSuccess (cb : CircuitBreaker) (now : Int) : CircuitBreaker :=
  let cb := { cb with totalSuccesses := cb.totalSuccesses + 1 }
  match cb.state with
  | stateClosed => if cb.failures > 0 then { cb with failures := 0 } else cb
  | stateHalfOpen =>
      if cb.halfOpenRequests ≥ cb.config.maxRequests then
        { (cb.setState stateClosed now) with failures := 0, halfOpenRequests := 0 }
      else cb
  | stateOpen => cb

def onFailure (cb : CircuitBreaker) (now : Int) : CircuitBreaker :=
  let cb := { cb with
    totalFailures := cb.totalFailures + 1, failures := cb.failures + 1,
    lastFailureTime := now }
  match cb.state with
  | stateClosed => if cb.failures ≥ cb.config.maxFailures then cb.setState stateOpen now else cb
  | stateHalfOpen => cb.setState stateOpen now
  | stateOpen => cb

/-- `afterRequest`: record the outcome of the guarded function. -/
def afterRequest (cb : CircuitBreaker) (success : Bool) (now : Int) : CircuitBreaker :=
  if success then cb.onSuccess now else cb.onFailure now

def reset (cb : CircuitBreaker) (now : Int) : CircuitBreaker :=
  { cb with
    state := stateClosed, failures := 0, halfOpenRequests := 0, lastStateChange := now }

end CircuitBreaker

/-- One critical section of a concurrent `Call`, or a `Reset`. -/
inductive CallEvent where
  | beforeRequest (now : Int)
  | afterRequest (success : Bool) (now : Int)
  | reset (now : Int)

/-- A breaker shared by concurrent `Call`s, with the calls in flight and admitted `HalfOpen`. -/
structure Calls where
  breaker : CircuitBreaker
  inFlight : Nat
  admittedInHalfOpen : Nat

namespace Calls

/-- No call has started yet. -/
def initial (config : CircuitBreakerConfig) (now : Int) : Calls :=
  ⟨CircuitBreaker.new config now, 0, 0⟩

/-- One step of the interleaving; `afterRequest` needs a call in flight. -/
def step (calls : Calls) : CallEvent → Option Calls
  | .beforeRequest now =>
      let (breaker, admitted) := calls.breaker.beforeRequest now
      let admittedInHalfOpen :=
        if calls.breaker.state ≠ stateHalfOpen ∧ breaker.state = stateHalfOpen then 1
        else if admitted ∧ breaker.state = stateHalfOpen then calls.admittedInHalfOpen + 1
        else calls.admittedInHalfOpen
      some ⟨breaker, if admitted then calls.inFlight + 1 else calls.inFlight,
        admittedInHalfOpen⟩
  | .afterRequest success now =>
      if calls.inFlight = 0 then none
      else some { calls with
        breaker := calls.breaker.afterRequest success now, inFlight := calls.inFlight - 1 }
  | .reset now => some { calls with breaker := calls.breaker.reset now }

/-- Run a sequence of steps; `none` if some step is not enabled. -/
def run (calls : Calls) : List CallEvent → Option Calls
  | [] => some calls
  | event :: rest => (calls.step event).bind fun next => next.run rest

end Calls

end TransisiDB.Proxy

namespace TransisiDB.Proxy

open CircuitBreakerState

namespace CircuitBreaker

variable (cb : CircuitBreaker) (now : Int)

/-- Whether a call that finds the breaker `Open` at `now` moves it to `HalfOpen`. -/
def timedOut : Prop :=
  now - cb.lastFailureTime > cb.config.timeout

instance : Decidable (cb.timedOut now) := inferInstanceAs (Decidable (_ > _))

/-- Whether a `HalfOpen` breaker has admitted its `MaxRequests` probes. -/
def probesFull : Prop :=
  cb.halfOpenRequests ≥ cb.config.maxRequests

instance : Decidable cb.probesFull := inferInstanceAs (Decidable (_ ≥ _))

@[simp]
theorem beforeRequest_config : (cb.beforeRequest now).1.config = cb.config := by
  cases state : cb.state <;> simp only [beforeRequest, state] <;> split_ifs <;> simp

theorem beforeRequest_state :
    (cb.beforeRequest now).1.state =
      if cb.state = stateOpen ∧ cb.timedOut now then stateHalfOpen else cb.state := by
  cases state : cb.state <;> simp only [beforeRequest, state, timedOut] <;> split_ifs <;> simp_all

theorem beforeRequest_admitted :
    (cb.beforeRequest now).2 =
      match cb.state with
      | stateClosed => true
      | stateOpen => decide (cb.timedOut now)
      | stateHalfOpen => !decide cb.probesFull := by
  cases state : cb.state <;> simp only [beforeRequest, state, timedOut, probesFull] <;>
    split_ifs <;> simp_all

theorem beforeRequest_halfOpenRequests :
    (cb.beforeRequest now).1.halfOpenRequests =
      match cb.state with
      | stateClosed => cb.halfOpenRequests
      | stateOpen => if cb.timedOut now then 0 else cb.halfOpenRequests
      | stateHalfOpen =>
          if cb.probesFull then cb.halfOpenRequests else cb.halfOpenRequests + 1 := by
  cases state : cb.state <;> simp only [beforeRequest, state, timedOut, probesFull] <;>
    split_ifs <;> simp_all

@[simp]
theorem onSuccess_config : (cb.onSuccess now).config = cb.config := by
  dsimp only [onSuccess]
  split <;> (try split) <;> simp

@[simp]
theorem onFailure_config : (cb.onFailure now).config = cb.config := by
  dsimp only [onFailure]
  split <;> (try split) <;> simp

@[simp]
theorem afterRequest_config (success : Bool) :
    (cb.afterRequest success now).config = cb.config := by
  cases success <;> simp [afterRequest]

theorem onSuccess_halfOpenRequests :
    (cb.onSuccess now).halfOpenRequests =
      if cb.state = stateHalfOpen ∧ cb.probesFull then 0 else cb.halfOpenRequests := by
  dsimp only [onSuccess, probesFull]
  split <;> (try split) <;> simp_all [not_le.mpr]

theorem onFailure_halfOpenRequests : (cb.onFailure now).halfOpenRequests = cb.halfOpenRequests := by
  dsimp only [onFailure]
  split <;> (try split) <;> simp

theorem afterRequest_halfOpenRequests (success : Bool) :
    (cb.afterRequest success now).halfOpenRequests =
      if success ∧ cb.state = stateHalfOpen ∧ cb.probesFull then 0 else cb.halfOpenRequests := by
  cases success <;> simp [afterRequest, onSuccess_halfOpenRequests, onFailure_halfOpenRequests]

theorem onSuccess_state_of_halfOpen (after : (cb.onSuccess now).state = stateHalfOpen) :
    cb.state = stateHalfOpen ∧ ¬cb.probesFull := by
  dsimp only [onSuccess, probesFull] at after ⊢
  split at after <;> (try split at after) <;> simp_all

theorem onFailure_state_ne_halfOpen : (cb.onFailure now).state ≠ stateHalfOpen := by
  dsimp only [onFailure]
  split <;> (try split) <;> simp_all

theorem afterRequest_state_of_halfOpen {success : Bool}
    (after : (cb.afterRequest success now).state = stateHalfOpen) :
    cb.state = stateHalfOpen ∧ success ∧ ¬cb.probesFull := by
  cases success with
  | false => exact absurd after (onFailure_state_ne_halfOpen cb now)
  | true =>
      obtain ⟨halfOpen, notFull⟩ := onSuccess_state_of_halfOpen cb now after
      exact ⟨halfOpen, rfl, notFull⟩

@[simp]
theorem reset_config : (cb.reset now).config = cb.config := rfl

@[simp]
theorem reset_state : (cb.reset now).state = stateClosed := rfl

@[simp]
theorem reset_halfOpenRequests : (cb.reset now).halfOpenRequests = 0 := rfl

@[simp]
theorem reset_failures : (cb.reset now).failures = 0 := rfl

/-! ### Counters and consecutive failures -/

theorem setState_eq (state : CircuitBreakerState) :
    cb.setState state now = { cb with
      state, lastStateChange := if cb.state ≠ state then now else cb.lastStateChange } := by
  unfold setState
  split
  · simp_all
  · cases cb
    simp_all

@[simp]
theorem beforeRequest_totalRequests :
    (cb.beforeRequest now).1.totalRequests = cb.totalRequests + 1 := by
  dsimp only [beforeRequest]
  split <;> (try split) <;> simp [setState_eq]

theorem beforeRequest_totalRejections :
    (cb.beforeRequest now).1.totalRejections =
      if (cb.beforeRequest now).2 then cb.totalRejections else cb.totalRejections + 1 := by
  dsimp only [beforeRequest]
  split <;> (try split) <;> simp_all [setState_eq]

@[simp]
theorem beforeRequest_totalSuccesses :
    (cb.beforeRequest now).1.totalSuccesses = cb.totalSuccesses := by
  dsimp only [beforeRequest]
  split <;> (try split) <;> simp [setState_eq]

@[simp]
theorem beforeRequest_totalFailures :
    (cb.beforeRequest now).1.totalFailures = cb.totalFailures := by
  dsimp only [beforeRequest]
  split <;> (try split) <;> simp [setState_eq]

@[simp]
theorem beforeRequest_failures : (cb.beforeRequest now).1.failures = cb.failures := by
  dsimp only [beforeRequest]
  split <;> (try split) <;> simp [setState_eq]

theorem beforeRequest_state_eq_closed :
    (cb.beforeRequest now).1.state = stateClosed ↔ cb.state = stateClosed := by
  rw [beforeRequest_state]
  split <;> simp_all

@[simp]
theorem afterRequest_totalRequests (success : Bool) :
    (cb.afterRequest success now).totalRequests = cb.totalRequests := by
  cases success <;> cases state : cb.state <;>
    simp [afterRequest, onSuccess, onFailure, state, setState_eq, apply_ite]

@[simp]
theorem afterRequest_totalRejections (success : Bool) :
    (cb.afterRequest success now).totalRejections = cb.totalRejections := by
  cases success <;> cases state : cb.state <;>
    simp [afterRequest, onSuccess, onFailure, state, setState_eq, apply_ite]

theorem afterRequest_totalSuccesses (success : Bool) :
    (cb.afterRequest success now).totalSuccesses =
      cb.totalSuccesses + if success then 1 else 0 := by
  cases success <;> cases state : cb.state <;>
    simp [afterRequest, onSuccess, onFailure, state, setState_eq, apply_ite]

theorem afterRequest_totalFailures (success : Bool) :
    (cb.afterRequest success now).totalFailures =
      cb.totalFailures + if success then 0 else 1 := by
  cases success <;> cases state : cb.state <;>
    simp [afterRequest, onSuccess, onFailure, state, setState_eq, apply_ite]

theorem onFailure_failures : (cb.onFailure now).failures = cb.failures + 1 := by
  dsimp only [onFailure]
  split <;> (try split) <;> simp [setState_eq]

theorem onFailure_state :
    (cb.onFailure now).state =
      if cb.state = stateClosed ∧ cb.failures + 1 < cb.config.maxFailures then stateClosed
      else stateOpen := by
  dsimp only [onFailure]
  split <;> (try split) <;> simp_all [not_lt.mpr]

theorem onSuccess_state :
    (cb.onSuccess now).state =
      if cb.state = stateHalfOpen ∧ cb.probesFull then stateClosed else cb.state := by
  dsimp only [onSuccess, probesFull]
  split <;> (try split) <;> simp_all [not_le.mpr]

theorem onSuccess_failures : (cb.onSuccess now).failures = 0 ∨
    (cb.onSuccess now).failures = cb.failures := by
  dsimp only [onSuccess]
  split <;> (try split) <;> simp [setState_eq]

theorem onSuccess_failures_of_closed (closed : (cb.onSuccess now).state = stateClosed)
    (nonnegative : 0 ≤ cb.failures) : (cb.onSuccess now).failures = 0 := by
  cases state : cb.state <;> simp only [onSuccess, state] at closed ⊢
  · split
    · rfl
    · exact le_antisymm (not_lt.mp ‹_›) nonnegative
  · simp at closed
  · split <;> simp_all [setState_eq]

end CircuitBreaker

namespace Calls

theorem run_preserves (holds : Calls → Prop)
    (step_holds : ∀ {calls next : Calls} {event : CallEvent}, holds calls →
      calls.step event = some next → holds next)
    {calls final : Calls} {events : List CallEvent} (initially : holds calls)
    (ran : calls.run events = some final) : holds final := by
  induction events generalizing calls with
  | nil =>
      simp only [run, Option.some.injEq] at ran
      exact ran ▸ initially
  | cons event rest inductionHypothesis =>
      obtain ⟨next, stepped, ranRest⟩ := Option.bind_eq_some.mp ran
      exact inductionHypothesis (step_holds initially stepped) ranRest

theorem step_config {calls next : Calls} {event : CallEvent}
    (stepped : calls.step event = some next) : next.breaker.config = calls.breaker.config := by
  cases event <;> simp only [step] at stepped
  all_goals (try split at stepped) <;> cases stepped <;> simp

/-- While `HalfOpen`, the counter is one short of the admissions; it stays in range. -/
def HalfOpenAccounting (calls : Calls) : Prop :=
  0 ≤ calls.breaker.halfOpenRequests ∧
    calls.breaker.halfOpenRequests ≤ max calls.breaker.config.maxRequests 0 ∧
    (calls.breaker.state = stateHalfOpen →
      (calls.admittedInHalfOpen : Int) = calls.breaker.halfOpenRequests + 1)

theorem initial_halfOpenAccounting (config : CircuitBreakerConfig) (now : Int) :
    (initial config now).HalfOpenAccounting := by
  simp [HalfOpenAccounting, initial, CircuitBreaker.new]

theorem step_halfOpenAccounting {calls next : Calls} {event : CallEvent}
    (accounting : calls.HalfOpenAccounting) (stepped : calls.step event = some next) :
    next.HalfOpenAccounting := by
  obtain ⟨nonnegative, bounded, counted⟩ := accounting
  cases event with
  | beforeRequest now =>
      simp only [step, Option.some.injEq] at stepped
      subst stepped
      simp only [HalfOpenAccounting, CircuitBreaker.beforeRequest_config,
        CircuitBreaker.beforeRequest_state, CircuitBreaker.beforeRequest_halfOpenRequests,
        CircuitBreaker.beforeRequest_admitted]
      cases state : calls.breaker.state with
      | stateClosed => simp [nonnegative, bounded]
      | stateOpen =>
          by_cases timedOut : calls.breaker.timedOut now <;> simp [timedOut, nonnegative, bounded]
      | stateHalfOpen =>
          have counted := counted state
          by_cases full : calls.breaker.probesFull
          · simp [full, nonnegative, bounded, counted]
          · have below : calls.breaker.halfOpenRequests < calls.breaker.config.maxRequests :=
              not_le.mp full
            simp [full, counted]
            omega
  | afterRequest success now =>
      simp only [step] at stepped
      split at stepped
      · cases stepped
      · cases stepped
        have counter := CircuitBreaker.afterRequest_halfOpenRequests calls.breaker now success
        refine ⟨?_, ?_, fun halfOpen => ?_⟩ <;> dsimp only at *
        · rw [counter]; split_ifs <;> omega
        · rw [counter, CircuitBreaker.afterRequest_config]; split_ifs <;> omega
        · obtain ⟨wasHalfOpen, succeeded, notFull⟩ :=
            CircuitBreaker.afterRequest_state_of_halfOpen _ _ halfOpen
          simp [counter, notFull, counted wasHalfOpen]
  | reset now =>
      simp only [step, Option.some.injEq] at stepped
      subst stepped
      simp_all [HalfOpenAccounting]

theorem run_config {calls final : Calls} {events : List CallEvent}
    (ran : calls.run events = some final) : final.breaker.config = calls.breaker.config :=
  run_preserves (fun next => next.breaker.config = calls.breaker.config)
    (fun same stepped => (step_config stepped).trans same) rfl ran

theorem run_halfOpenAccounting {calls final : Calls} {events : List CallEvent}
    (accounting : calls.HalfOpenAccounting) (ran : calls.run events = some final) :
    final.HalfOpenAccounting :=
  run_preserves _ step_halfOpenAccounting accounting ran

/-- A breaker `HalfOpen` since its last transition has admitted `halfOpenRequests + 1` calls. -/
theorem admittedInHalfOpen_eq (config : CircuitBreakerConfig) (start : Int)
    (events : List CallEvent) {final : Calls}
    (ran : (initial config start).run events = some final)
    (halfOpen : final.breaker.state = stateHalfOpen) :
    (final.admittedInHalfOpen : Int) = final.breaker.halfOpenRequests + 1 ∧
      final.breaker.halfOpenRequests ≤ max config.maxRequests 0 := by
  obtain ⟨-, bounded, counted⟩ :=
    run_halfOpenAccounting (initial_halfOpenAccounting config start) ran
  rw [run_config ran] at bounded
  exact ⟨counted halfOpen, bounded⟩

theorem admittedInHalfOpen_eq_maxRequests_one :
    let events : List CallEvent := [.beforeRequest 0, .afterRequest false 0, .beforeRequest 11,
      .afterRequest true 11, .beforeRequest 12]
    ∃ final, (initial ⟨1, 10, 1⟩ 0).run events = some final ∧
      final.breaker.state = stateHalfOpen ∧
      (final.admittedInHalfOpen : Int) = final.breaker.halfOpenRequests + 1 ∧
      final.breaker.halfOpenRequests ≤ max (1 : Int) 0 := by
  intro events
  have ran : (initial ⟨1, 10, 1⟩ 0).run events = some _ := rfl
  exact ⟨_, ran, rfl, admittedInHalfOpen_eq _ _ events ran rfl⟩

/-- With `MaxRequests = 1`, `HalfOpen` admits a second call before closing. -/
theorem halfOpen_admits_two_calls_with_maxRequests_one :
    ((initial ⟨1, 10, 1⟩ 0).run
        [.beforeRequest 0, .afterRequest false 0, .beforeRequest 11, .afterRequest true 11,
          .beforeRequest 12]).map (fun calls => (calls.breaker.state, calls.admittedInHalfOpen)) =
      some (stateHalfOpen, 2) := by
  decide

end Calls

end TransisiDB.Proxy
