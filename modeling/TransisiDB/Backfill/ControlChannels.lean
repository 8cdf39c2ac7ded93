import TransisiDB.Backfill.Control

set_option autoImplicit false

/-!
# The control channels of the backfill worker

`Pause`, `Resume` and `Stop` of `internal/backfill/worker.go`, each called by any goroutine,
against the goroutine running the loop of `Start`, over the unbuffered channels `pauseCh`,
`resumeCh` and `stopCh`.  The worker moves as `Loop.step` says, on the signal its `select`
(or its receive from `resumeCh`) gets; a send completes only when the worker receives it, and
the `default` case runs a batch only when no case of the `select` is ready.  A caller's
`paused.CompareAndSwap` and its arrival at the send are one step.  The signal handler of
`cmd/backfill` is a caller of `Stop`.

* `Channels.run_loop`: the worker's part of every interleaving is a run of `Loop`, so what
  holds of every run of `Loop` (`Loop.run_statusFollows`) holds in every interleaving.
* `Channels.run_blockedOnReturned`: a caller sending to a worker that has returned stays
  blocked in every continuation.
* `control_sends_strand_callers`: `Stop` while paused, and `Stop` that passes its
  `running.Load()` just before the worker returns, leave a caller blocked in its send.
-/

namespace TransisiDB.Backfill

/-- The three control calls. -/
inductive Call where
  | pause
  | resume
  | stop
  deriving DecidableEq, Repr

/-- What the worker receives when it receives a call's send. -/
def Call.signal : Call → Signal
  | .pause => .pause
  | .resume => .resume
  | .stop => .stop

/-- What `Pause`, `Resume` and `Stop` return when `running.Load()` is false. -/
def Call.notRunning : Call → Option String
  | .pause | .resume => some "worker not running"
  | .stop => none

/-- Where the goroutine of a caller is. -/
inductive CallerPc where
  | idle
  | checked (call : Call)
  | sending (call : Call)
  | returned (err : Option String)
  deriving DecidableEq, Repr

/-- One step of one goroutine, or of the environment. -/
inductive ChannelStep where
  | load (caller : Nat) (call : Call)
  | arrive (caller : Nat)
  | deliver (caller : Nat)
  | cancel
  | workerDone
  | workerBatch

/-- The caller a step is taken by, if any. -/
def ChannelStep.caller? : ChannelStep → Option Nat
  | .load k _ | .arrive k | .deliver k => some k
  | .cancel | .workerDone | .workerBatch => none

/-- The worker's goroutine, the `paused` flag, the context, and the callers. -/
structure Channels where
  loop : Loop
  paused : Bool
  ctxDone : Bool
  callers : List CallerPc

namespace Channels

/-- `n` callers and the worker entering its loop, nothing paused or cancelled. -/
def start (l : Loop) (n : Nat) : Channels :=
  ⟨l, false, false, List.replicate n .idle⟩

variable (c : Channels)

/-- Caller `k` moves to `pc`. -/
def setCaller (k : Nat) (pc : CallerPc) : Channels :=
  { c with callers := c.callers.set k pc }

/-- Some caller is blocked in a send the worker's `select` could receive. -/
def senderReady : Bool :=
  c.callers.any fun pc => pc = .sending .pause ∨ pc = .sending .stop

variable (backend : Backend) (columnOrder : Nat → Nat) (tableConfig : TableConfig)

/-- The worker receives `signal`, if it can where it is. -/
def workerStep (signal : Signal) : Option Channels :=
  (c.loop.step backend columnOrder tableConfig signal).map fun loop => { c with loop := loop }

/-- One step; `none` if the goroutine cannot take it now. -/
def step : ChannelStep → Option Channels
  | .load k call =>
      match c.callers[k]? with
      | some .idle =>
          some (c.setCaller k
            (if c.loop.worker.running then .checked call else .returned call.notRunning))
      | _ => none
  | .arrive k =>
      match c.callers[k]? with
      | some (.checked .pause) =>
          some (if c.paused then c.setCaller k (.returned (some "worker already paused"))
            else { c with paused := true }.setCaller k (.sending .pause))
      | some (.checked .resume) =>
          some (if c.paused then { c with paused := false }.setCaller k (.sending .resume)
            else c.setCaller k (.returned (some "worker not paused")))
      | some (.checked .stop) => some (c.setCaller k (.sending .stop))
      | _ => none
  | .deliver k =>
      match c.callers[k]? with
      | some (.sending call) =>
          ((c.workerStep backend columnOrder tableConfig call.signal).map
            fun next => next.setCaller k (.returned none))
      | _ => none
  | .cancel => some { c with ctxDone := true }
  | .workerDone =>
      if c.ctxDone then c.workerStep backend columnOrder tableConfig (.done "context canceled")
      else none
  | .workerBatch =>
      if c.ctxDone || c.senderReady then none
      else c.workerStep backend columnOrder tableConfig .proceed

/-- The program after a sequence of steps; `none` if one of them cannot be taken. -/
def run (current : Channels) : List ChannelStep → Option Channels
  | [] => some current
  | action :: rest => (current.step backend columnOrder tableConfig action).bind fun next =>
      next.run rest

/-- The worker never receives what caller `k` sends. -/
def stranded (k : Nat) : Bool :=
  match c.callers[k]?, c.loop.phase with
  | some (.sending _), .returned _ => true
  | some (.sending .pause), .paused | some (.sending .stop), .paused => true
  | _, _ => false

variable {backend columnOrder tableConfig}

theorem run_cons (action : ChannelStep) (rest : List ChannelStep) :
    c.run backend columnOrder tableConfig (action :: rest) =
      (c.step backend columnOrder tableConfig action).bind fun next =>
        next.run backend columnOrder tableConfig rest := rfl

theorem run_preserves (holds : Channels → Prop)
    (step_holds : ∀ {current next action}, holds current →
      current.step backend columnOrder tableConfig action = some next → holds next)
    {current final : Channels} {steps : List ChannelStep} (initially : holds current)
    (ran : current.run backend columnOrder tableConfig steps = some final) : holds final := by
  induction steps generalizing current with
  | nil => simp only [run, Option.some.injEq] at ran; exact ran ▸ initially
  | cons action rest inductionHypothesis =>
      obtain ⟨next, stepped, ranRest⟩ := Option.bind_eq_some.mp ran
      exact inductionHypothesis (step_holds initially stepped) ranRest

@[simp]
theorem setCaller_loop (k : Nat) (pc : CallerPc) : (c.setCaller k pc).loop = c.loop := rfl

theorem setCaller_getElem?_of_ne {k other : Nat} (pc : CallerPc) (distinct : some k ≠ some other) :
    (c.setCaller k pc).callers[other]? = c.callers[other]? :=
  List.getElem?_set_ne fun same => distinct (congrArg some same)

theorem workerStep_spec {signal : Signal} {next : Channels}
    (stepped : c.workerStep backend columnOrder tableConfig signal = some next) :
    c.loop.step backend columnOrder tableConfig signal = some next.loop ∧
      next.callers = c.callers := by
  obtain ⟨loop, received, rfl⟩ := Option.map_eq_some'.mp stepped
  exact ⟨received, rfl⟩

theorem step_frame {action : ChannelStep} {next : Channels}
    (stepped : c.step backend columnOrder tableConfig action = some next) :
    (next.loop = c.loop ∨
        ∃ signal, c.loop.step backend columnOrder tableConfig signal = some next.loop) ∧
      ∀ other, action.caller? ≠ some other → next.callers[other]? = c.callers[other]? := by
  cases action with
  | load k call =>
      simp only [step] at stepped
      split at stepped <;> cases stepped
      exact ⟨.inl rfl, fun other => c.setCaller_getElem?_of_ne _⟩
  | arrive k =>
      simp only [step] at stepped
      split at stepped <;> (try split_ifs at stepped) <;> cases stepped <;>
        exact ⟨.inl rfl, fun other => setCaller_getElem?_of_ne _ _⟩
  | deliver k =>
      simp only [step] at stepped
      split at stepped
      · obtain ⟨worked, received, rfl⟩ := Option.map_eq_some'.mp stepped
        obtain ⟨received, same⟩ := c.workerStep_spec received
        refine ⟨.inr ⟨_, received⟩, fun other distinct => ?_⟩
        rw [setCaller_getElem?_of_ne _ _ distinct, same]
      · cases stepped
  | cancel => cases stepped; exact ⟨.inl rfl, fun _ _ => rfl⟩
  | workerDone | workerBatch =>
      simp only [step] at stepped
      split_ifs at stepped
      obtain ⟨received, same⟩ := c.workerStep_spec stepped
      exact ⟨.inr ⟨_, received⟩, fun other _ => by rw [same]⟩

theorem step_of_sending {k : Nat} {call : Call} {action : ChannelStep} {next : Channels}
    (sending : c.callers[k]? = some (.sending call)) (named : action.caller? = some k)
    (stepped : c.step backend columnOrder tableConfig action = some next) :
    c.loop.step backend columnOrder tableConfig call.signal = some next.loop := by
  cases action with
  | load k' _ | arrive k' =>
      cases named
      simp only [step, sending] at stepped
      cases stepped
  | deliver k' =>
      cases named
      simp only [step, sending] at stepped
      obtain ⟨worked, received, rfl⟩ := Option.map_eq_some'.mp stepped
      exact (c.workerStep_spec received).1
  | cancel | workerDone | workerBatch => cases named

theorem run_loop {current final : Channels} {steps : List ChannelStep}
    (ran : current.run backend columnOrder tableConfig steps = some final) :
    ∃ signals, current.loop.run backend columnOrder tableConfig signals = some final.loop := by
  induction steps generalizing current with
  | nil =>
      simp only [run, Option.some.injEq] at ran
      exact ⟨[], by rw [ran]; rfl⟩
  | cons action rest inductionHypothesis =>
      obtain ⟨next, stepped, ranRest⟩ := Option.bind_eq_some.mp ran
      obtain ⟨signals, loopRan⟩ := inductionHypothesis ranRest
      rcases (current.step_frame stepped).1 with same | ⟨signal, received⟩
      · exact ⟨signals, same ▸ loopRan⟩
      · exact ⟨signal :: signals, by rw [Loop.run, received, Option.some_bind, loopRan]⟩

theorem run_statusFollows (w : Worker) (table : Table) (tableName : String) (totalRows n : Nat)
    {steps : List ChannelStep} {final : Channels}
    (ran : (start (Loop.enter w table tableName totalRows) n).run backend columnOrder tableConfig
      steps = some final) :
    final.loop.worker.progress.status = .running ∨
      final.loop.worker.progress.status = .completed ∧ final.loop.phase = .returned none :=
  have ⟨signals, loopRan⟩ := run_loop ran
  Loop.run_statusFollows w table tableName totalRows signals loopRan

/-! ## Callers blocked for good -/

/-- Caller `k` is blocked in the send of `call`, and the worker has returned `err`. -/
def BlockedOnReturned (k : Nat) (call : Call) (err : Option String) (c : Channels) : Prop :=
  c.callers[k]? = some (.sending call) ∧ c.loop.phase = .returned err

theorem step_blockedOnReturned {k : Nat} {call : Call} {err : Option String}
    {action : ChannelStep} {next : Channels} (blocked : BlockedOnReturned k call err c)
    (stepped : c.step backend columnOrder tableConfig action = some next) :
    BlockedOnReturned k call err next := by
  obtain ⟨sending, returned⟩ := blocked
  have noReceive : ∀ {signal : Signal} {l : Loop},
      c.loop.step backend columnOrder tableConfig signal ≠ some l := fun received => by
    rcases (Loop.step_cases received).1 with active | active <;> rw [returned] at active <;>
      cases active
  obtain ⟨same | ⟨_, received⟩, frame⟩ := c.step_frame stepped
  · by_cases named : action.caller? = some k
    · exact absurd (c.step_of_sending sending named stepped) noReceive
    · exact ⟨by rw [frame k named, sending], by rw [same, returned]⟩
  · exact absurd received noReceive

theorem run_blockedOnReturned {k : Nat} {call : Call} {err : Option String}
    {steps : List ChannelStep} {final : Channels} (blocked : BlockedOnReturned k call err c)
    (ran : c.run backend columnOrder tableConfig steps = some final) :
    BlockedOnReturned k call err final :=
  run_preserves (BlockedOnReturned k call err)
    (fun holds stepped => step_blockedOnReturned _ holds stepped) blocked ran

end Channels

/-- A `Stop` or a `Pause` can block for ever on a worker that waits or has returned. -/
theorem control_sends_strand_callers :
    let start := Channels.start (Loop.enter
      (Worker.new ⟨⟨1000, 4, "BANKERS_ROUND"⟩, ⟨10, 3⟩, GoMap.empty⟩)
      ⟨[Worker.ordersRow 1 (.integer 750000)], by decide⟩ "orders" 1) 2
    [[.load 0 .pause, .arrive 0, .deliver 0, .load 1 .stop, .arrive 1],
        [.load 1 .stop, .workerBatch, .workerBatch, .arrive 1],
        [.load 1 .pause, .workerBatch, .workerBatch, .arrive 1]].map
      (fun steps => (start.run Worker.tableOrder id Worker.amountTableConfig steps).map
        fun final => (final.stranded 1, final.loop.phase)) =
      [some (true, .paused), some (true, .returned none), some (true, .returned none)] := by
  decide

end TransisiDB.Backfill
