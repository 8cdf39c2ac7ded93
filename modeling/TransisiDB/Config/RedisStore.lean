import Mathlib.Data.List.Basic

set_option autoImplicit false

/-!
# The configuration watch of `RedisStore`

`watchLoop` (the goroutine `WatchConfigChanges` starts), `Close`, and a subscriber of the
channel `WatchConfigChanges` returns, in package `config`, each stepped at one operation on
a channel or one call into Redis.  A snapshot is a value of `α`; which snapshot `LoadConfig`
returns, or whether it fails, is the environment's choice, as are `PublishReload` and the
cancellation of the context.  An unrecovered panic ends the program, so no step follows it.

* `Run.run_inOrder`: in every reachable state, what the subscriber received, what waits in
  `reloadCh` and the snapshot the loop is about to send are, in that order, snapshots the
  loop loaded, none taken twice; and `reloadCh` holds at most its ten slots.  So the
  subscriber receives loaded snapshots only, in load order (`Run.run_received_sublist_loaded`).
* `Run.drained_subscriber_misses_latest_snapshot`: when `reloadCh` is full the loop drops the
  snapshot it just loaded, so a subscriber that drains the channel can end on an older one.
* `Run.send_on_closed_reloadCh_after_close`: `Close` closes `reloadCh` without waiting for
  the loop, and a loop that has loaded a snapshot then sends on the closed channel.
-/

namespace TransisiDB.RedisStore

/-- The capacity `NewRedisStore` gives `reloadCh`. -/
def reloadCapacity : Nat := 10

/-- Where the goroutine of `watchLoop` is. -/
inductive WatchPc (α : Type) where
  | selecting
  | loading
  | sending (cfg : α)
  | returned
  deriving DecidableEq, Repr

/-- Where the one call of `Close` is. -/
inductive ClosePc where
  | idle
  | closingPubsub
  | closingReload
  | returned
  deriving DecidableEq, Repr

/-- One operation of one party, with what the environment decides in it. -/
inductive Step (α : Type) where
  | publish
  | cancel
  | watchReturn
  | watchReceive
  | load (result : Option α)
  | send
  | receive
  | closeSignal
  | closePubsub (fails : Bool)
  | closeReload

/-- The store, its goroutines and the subscriber. -/
structure Run (α : Type) where
  ctxDone : Bool
  closeChClosed : Bool
  notifications : Nat
  pubsubClosed : Bool
  reloadCh : List α
  reloadChClosed : Bool
  watcher : WatchPc α
  closer : ClosePc
  loaded : List α
  received : List α
  panicked : Bool
  deriving DecidableEq, Repr

/-- The snapshot the loop has loaded and not yet sent or dropped. -/
def WatchPc.inFlight {α : Type} : WatchPc α → List α
  | .sending cfg => [cfg]
  | .selecting | .loading | .returned => []

namespace Run

variable {α : Type}

/-- The store after `WatchConfigChanges` has subscribed and started `watchLoop`. -/
def new : Run α :=
  ⟨false, false, 0, false, [], false, .selecting, .idle, [], [], false⟩

variable (s : Run α)

/-- One step of one party, before any panic; `none` if it cannot take it now. -/
def advance : Step α → Option (Run α)
  | .publish => some (if s.pubsubClosed then s else { s with notifications := s.notifications + 1 })
  | .cancel => some { s with ctxDone := true }
  | .watchReturn =>
      match s.watcher with
      | .selecting =>
          if s.ctxDone ∨ s.closeChClosed then some { s with watcher := .returned } else none
      | _ => none
  | .watchReceive =>
      match s.watcher with
      | .selecting =>
          if 0 < s.notifications then
            some { s with notifications := s.notifications - 1, watcher := .loading }
          -- the closed subscription yields `nil`, and the loop continues
          else if s.pubsubClosed then some s
          else none
      | _ => none
  | .load result =>
      match s.watcher with
      | .loading =>
          some (match result with
            | some cfg => { s with loaded := s.loaded ++ [cfg], watcher := .sending cfg }
            | none => { s with watcher := .selecting })
      | _ => none
  | .send =>
      match s.watcher with
      | .sending cfg =>
          some (if s.reloadChClosed then { s with panicked := true }
            else if s.reloadCh.length < reloadCapacity then
              { s with reloadCh := s.reloadCh ++ [cfg], watcher := .selecting }
            else { s with watcher := .selecting })
      | _ => none
  | .receive =>
      match s.reloadCh with
      | cfg :: rest => some { s with reloadCh := rest, received := s.received ++ [cfg] }
      -- the closed, empty channel yields `nil`, which is no snapshot
      | [] => if s.reloadChClosed then some s else none
  | .closeSignal =>
      if s.closer = .idle then some { s with closeChClosed := true, closer := .closingPubsub }
      else none
  | .closePubsub fails =>
      if s.closer = .closingPubsub then
        some { s with pubsubClosed := true, closer := if fails then .returned else .closingReload }
      else none
  | .closeReload =>
      if s.closer = .closingReload then some { s with reloadChClosed := true, closer := .returned }
      else none

/-- One step of the program; `none` if the party cannot take it, or after a panic. -/
def step (action : Step α) : Option (Run α) :=
  if s.panicked then none else s.advance action

/-- The program after a sequence of steps; `none` if one of them cannot be taken. -/
def run (current : Run α) : List (Step α) → Option (Run α)
  | [] => some current
  | action :: rest => (current.step action).bind fun next => next.run rest

theorem run_cons (action : Step α) (rest : List (Step α)) :
    s.run (action :: rest) = (s.step action).bind fun next => next.run rest := rfl

theorem run_preserves (P : Run α → Prop)
    (step_P : ∀ (current next : Run α) (action : Step α), P current →
      current.step action = some next → P next) :
    ∀ (steps : List (Step α)) (current final : Run α), P current →
      current.run steps = some final → P final := by
  intro steps
  induction steps with
  | nil => intro current final holds reached; cases reached; exact holds
  | cons action rest inductionHypothesis =>
      intro current final holds reached
      rw [run_cons] at reached
      cases stepped : current.step action with
      | none => rw [stepped] at reached; cases reached
      | some next =>
          rw [stepped] at reached
          exact inductionHypothesis next final (step_P current next action holds stepped) reached

/-! ## Snapshots reach the subscriber in load order -/

/-- Received, queued and in-flight snapshots are loaded ones, in load order; `reloadCh` fits. -/
structure InOrder : Prop where
  queue_le : s.reloadCh.length ≤ reloadCapacity
  sublist : (s.received ++ s.reloadCh ++ s.watcher.inFlight).Sublist s.loaded

theorem new_inOrder : (new : Run α).InOrder :=
  ⟨Nat.zero_le _, List.Sublist.slnil⟩

theorem InOrder.of_same {current next : Run α} (holds : current.InOrder)
    (queue : next.reloadCh = current.reloadCh) (received : next.received = current.received)
    (loaded : next.loaded = current.loaded)
    (inFlight : next.watcher.inFlight = current.watcher.inFlight) : next.InOrder := by
  constructor
  · rw [queue]; exact holds.queue_le
  · rw [queue, received, loaded, inFlight]; exact holds.sublist

theorem advance_inOrder {next : Run α} {action : Step α} (holds : s.InOrder)
    (stepped : s.advance action = some next) : next.InOrder := by
  have ⟨queue_le, sublist⟩ := holds
  cases action with
  | publish =>
      simp only [advance, Option.some.injEq] at stepped
      subst stepped
      split_ifs <;> exact holds.of_same rfl rfl rfl rfl
  | cancel => cases stepped; exact holds.of_same rfl rfl rfl rfl
  | watchReturn =>
      cases watcher : s.watcher <;> simp only [advance, watcher, reduceCtorEq] at stepped
      split_ifs at stepped
      cases stepped
      exact holds.of_same rfl rfl rfl (by rw [watcher]; rfl)
  | watchReceive =>
      cases watcher : s.watcher <;> simp only [advance, watcher, reduceCtorEq] at stepped
      split_ifs at stepped <;> cases stepped
      · exact holds.of_same rfl rfl rfl (by rw [watcher]; rfl)
      · exact holds
  | load result =>
      cases watcher : s.watcher <;> simp only [advance, watcher, reduceCtorEq] at stepped
      cases stepped
      cases result with
      | none => exact holds.of_same rfl rfl rfl (by rw [watcher]; rfl)
      | some cfg =>
          rw [watcher, WatchPc.inFlight, List.append_nil] at sublist
          exact ⟨queue_le, sublist.append (List.Sublist.refl [cfg])⟩
  | send =>
      cases watcher : s.watcher <;> simp only [advance, watcher, reduceCtorEq] at stepped
      rename_i cfg
      rw [watcher, WatchPc.inFlight] at sublist
      split_ifs at stepped with closed fits <;> cases stepped
      · exact holds.of_same rfl rfl rfl (by rw [watcher])
      · refine ⟨by simp only [List.length_append, List.length_singleton]; omega, ?_⟩
        simpa only [WatchPc.inFlight, List.append_nil, List.append_assoc] using sublist
      · refine ⟨queue_le, ?_⟩
        simpa only [WatchPc.inFlight, List.append_nil] using
          (List.sublist_append_left _ [cfg]).trans sublist
  | receive =>
      cases queue : s.reloadCh with
      | cons cfg rest =>
          simp only [advance, queue, Option.some.injEq] at stepped
          subst stepped
          rw [queue] at queue_le sublist
          refine ⟨Nat.le_of_succ_le queue_le, ?_⟩
          simpa only [List.append_assoc, List.singleton_append] using sublist
      | nil =>
          simp only [advance, queue] at stepped
          split_ifs at stepped
          cases stepped
          exact holds
  | closeSignal | closePubsub _ | closeReload =>
      simp only [advance] at stepped
      split_ifs at stepped <;> cases stepped <;> exact holds.of_same rfl rfl rfl rfl

theorem advance_loaded {next : Run α} {action : Step α} (stepped : s.advance action = some next) :
    next.loaded = s.loaded ∨
      ∃ cfg, action = .load (some cfg) ∧ next.loaded = s.loaded ++ [cfg] := by
  cases action with
  | load result =>
      cases watcher : s.watcher <;> simp only [advance, watcher, reduceCtorEq] at stepped
      cases stepped
      cases result with
      | none => exact .inl rfl
      | some cfg => exact .inr ⟨cfg, rfl, rfl⟩
  | publish =>
      simp only [advance, Option.some.injEq] at stepped
      subst stepped
      split_ifs <;> exact .inl rfl
  | cancel => cases stepped; exact .inl rfl
  | watchReturn | watchReceive =>
      cases watcher : s.watcher <;> simp only [advance, watcher, reduceCtorEq] at stepped
      split_ifs at stepped <;> cases stepped <;> exact .inl rfl
  | send =>
      cases watcher : s.watcher <;>
        simp only [advance, watcher, reduceCtorEq, Option.some.injEq] at stepped
      subst stepped
      split_ifs <;> exact .inl rfl
  | receive =>
      cases queue : s.reloadCh <;> simp only [advance, queue, Option.some.injEq] at stepped
      · split_ifs at stepped
        cases stepped
        exact .inl rfl
      · subst stepped
        exact .inl rfl
  | closeSignal | closePubsub _ | closeReload =>
      simp only [advance] at stepped
      split_ifs at stepped <;> cases stepped <;> exact .inl rfl

theorem step_inOrder {next : Run α} {action : Step α} (holds : s.InOrder)
    (stepped : s.step action = some next) : next.InOrder := by
  unfold step at stepped
  split_ifs at stepped
  exact s.advance_inOrder holds stepped

theorem run_inOrder (steps : List (Step α)) {final : Run α}
    (reached : (new : Run α).run steps = some final) : final.InOrder :=
  run_preserves InOrder (fun current _ _ holds stepped => current.step_inOrder holds stepped)
    steps new final new_inOrder reached

theorem run_received_sublist_loaded (steps : List (Step α)) {final : Run α}
    (reached : (new : Run α).run steps = some final) : final.received.Sublist final.loaded :=
  ((List.sublist_append_left _ _).trans (List.sublist_append_left _ _)).trans
    (run_inOrder steps reached).sublist

/-- Snapshots arrive in load order, at most ten queue, and a full `reloadCh` drops the new one. -/
theorem run_drops_new_snapshot_when_full (steps : List (Step α)) {final : Run α}
    (reached : (new : Run α).run steps = some final) :
    final.received.Sublist final.loaded ∧ final.reloadCh.length ≤ reloadCapacity ∧
      ∀ cfg, final.panicked = false → final.reloadChClosed = false →
        final.watcher = .sending cfg → final.reloadCh.length = reloadCapacity →
        final.step .send = some { final with watcher := .selecting } :=
  ⟨run_received_sublist_loaded steps reached, (run_inOrder steps reached).queue_le,
    fun cfg running openCh sending full => by
      simp [step, advance, running, openCh, sending, full]⟩

theorem run_drops_new_snapshot_when_full_eleventh :
    let steps : List (Step Nat) := ((List.range 10).flatMap fun k =>
      [.publish, .watchReceive, .load (some (k + 1)), .send]) ++
        [.publish, .watchReceive, .load (some 11)]
    ∃ final, (new : Run Nat).run steps = some final ∧
      final.received.Sublist final.loaded ∧ final.reloadCh.length ≤ reloadCapacity ∧
      ∀ cfg, final.panicked = false → final.reloadChClosed = false →
        final.watcher = .sending cfg → final.reloadCh.length = reloadCapacity →
        final.step .send = some { final with watcher := .selecting } := by
  intro steps
  exact ⟨_, rfl, run_drops_new_snapshot_when_full steps rfl⟩

theorem drained_subscriber_misses_latest_snapshot :
    ((new : Run Nat).run (((List.range 11).flatMap fun k =>
        [.publish, .watchReceive, .load (some (k + 1)), .send]) ++ List.replicate 10 .receive)).map
      (fun final => (final.loaded.getLast?, final.received.getLast?, final.reloadCh,
        final.watcher)) =
      some (some 11, some 10, [], .selecting) := by
  decide

/-! ## `Close` against the loop -/

/-- A reload, then `Close` before the loop's `select`: the send on `reloadCh` panics. -/
theorem send_on_closed_reloadCh_after_close :
    ((new : Run Nat).run [.publish, .watchReceive, .load (some 1), .closeSignal,
        .closePubsub false, .closeReload, .send]).map (·.panicked) = some true := by
  decide

end Run

end TransisiDB.RedisStore
