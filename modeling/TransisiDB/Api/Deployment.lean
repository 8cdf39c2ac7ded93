import TransisiDB.Api.Server
import TransisiDB.Config.RedisStore

set_option autoImplicit false

/-!
# The API and a configuration watcher over one Redis store

The management API writes the configuration that `WatchConfigChanges` delivers; both read and
write one Redis database.  `Deployment` runs the API server of `TransisiDB.Api.Server` beside
the watch of `TransisiDB.Config.RedisStore`, whose snapshots are whole `ConfigDocument`s and
whose `LoadConfig` reads the API's store.  Reload messages, from `POST /config/reload` or any
other client, are the watch's `publish` steps and may come at any time.

* `Deployment.run_received_validated`: from a store that holds what `SaveConfig` writes, a
  subscriber of `WatchConfigChanges` receives only configurations that passed `Validate`, in
  every interleaving of the API's requests, the halves of its updates and the watch's steps.
-/

namespace TransisiDB.Api

open TransisiDB.RedisStore

/-- The API server and the watch of one subscriber, over one Redis store. -/
structure Deployment where
  api : Server
  watch : Run ConfigDocument

namespace Deployment

/-- What happens next. -/
inductive Event where
  | api (event : Api.Event)
  | watch (action : Step ConfigDocument)
  | load (getConfig : Outcome)

/-- One event: the API's answer, if any, and the deployment after it; `none` if impossible. -/
def step (deployment : Deployment) : Event → Option (List Response × Deployment)
  | .api event =>
      (deployment.api.step event).map fun (answer, api) => (answer.toList, { deployment with api })
  | .watch (.load _) => none
  | .watch action => (deployment.watch.step action).map fun watch => ([], { deployment with watch })
  | .load getConfig =>
      (deployment.watch.step (.load (loadConfig deployment.api.redis getConfig).toOption)).map
        fun watch => ([], { deployment with watch })

/-- A run: the API's answers in order, and the deployment after it. -/
def run : Deployment → List Event → Option (List Response × Deployment)
  | deployment, [] => some ([], deployment)
  | deployment, event :: rest =>
      (deployment.step event).bind fun (answers, next) =>
        (run next rest).map fun (later, final) => (answers ++ later, final)

theorem run_cons_eq_some {deployment : Deployment} {event : Event} {rest : List Event}
    {answers : List Response} {final : Deployment}
    (ran : deployment.run (event :: rest) = some (answers, final)) :
    ∃ first next, deployment.step event = some (first, next) ∧
      ∃ later, next.run rest = some (later, final) := by
  simp only [run, Option.bind_eq_some] at ran
  obtain ⟨⟨first, next⟩, stepEq, ranRest⟩ := ran
  obtain ⟨⟨later, final'⟩, restEq, joined⟩ := Option.map_eq_some'.mp ranRest
  cases joined
  exact ⟨first, next, stepEq, later, restEq⟩

/-- The store holds what `SaveConfig` writes; the watch's snapshots are valid and in order. -/
structure Safe (deployment : Deployment) : Prop where
  stored : Stored deployment.api.redis
  loaded : ∀ doc ∈ deployment.watch.loaded, doc.validate = none
  inOrder : deployment.watch.InOrder

theorem Safe.watch_step {deployment : Deployment} {action : Step ConfigDocument}
    {watch : Run ConfigDocument} (safe : deployment.Safe)
    (readsStore : ∀ cfg, action = .load (some cfg) →
      deployment.api.redis.get mainKey = some (.config cfg))
    (stepped : deployment.watch.step action = some watch) :
    Safe { deployment with watch } := by
  refine ⟨safe.stored, fun doc mem => ?_, deployment.watch.step_inOrder safe.inOrder stepped⟩
  unfold Run.step at stepped
  split_ifs at stepped
  rcases deployment.watch.advance_loaded stepped with same | ⟨cfg, loading, grown⟩
  · exact safe.loaded doc (same ▸ mem)
  · rw [grown] at mem
    rcases List.mem_append.mp mem with old | new
    · exact safe.loaded doc old
    · obtain ⟨_, held, valid⟩ := safe.stored.1 _ (readsStore cfg loading)
      rw [List.mem_singleton.mp new]
      cases held
      exact valid

theorem step_safe {deployment next : Deployment} {event : Event} {answers : List Response}
    (safe : deployment.Safe) (stepped : deployment.step event = some (answers, next)) :
    next.Safe := by
  cases event with
  | api event =>
      obtain ⟨⟨answer, api⟩, apiStep, joined⟩ := Option.map_eq_some'.mp stepped
      cases joined
      exact ⟨(Server.step_stored safe.stored apiStep).1, safe.loaded, safe.inOrder⟩
  | watch action =>
      cases action with
      | load result => cases stepped
      | _ =>
          obtain ⟨watch, watchStep, joined⟩ := Option.map_eq_some'.mp stepped
          cases joined
          exact safe.watch_step (fun _ loading => by cases loading) watchStep
  | load getConfig =>
      obtain ⟨watch, watchStep, joined⟩ := Option.map_eq_some'.mp stepped
      cases joined
      refine safe.watch_step (fun cfg loading => ?_) watchStep
      cases loaded : loadConfig deployment.api.redis getConfig with
      | error err => rw [loaded] at loading; cases loading
      | ok doc =>
          rw [loaded] at loading
          cases loading
          exact loadConfig_eq_ok loaded

theorem run_safe : ∀ (events : List Event) {deployment : Deployment} {answers : List Response}
    {final : Deployment}, deployment.Safe → deployment.run events = some (answers, final) →
      final.Safe
  | [], _, _, _, safe, ran => by
      cases ran
      exact safe
  | event :: rest, _, _, _, safe, ran => by
      obtain ⟨_, next, stepEq, _, restEq⟩ := run_cons_eq_some ran
      exact run_safe rest (step_safe safe stepEq) restEq

/-- In every interleaving, a new subscriber receives only configurations `Validate` passed. -/
theorem run_received_validated (api : Server) (events : List Event) {answers : List Response}
    {final : Deployment} (start : Stored api.redis)
    (ran : (⟨api, Run.new⟩ : Deployment).run events = some (answers, final)) :
    ∀ doc ∈ final.watch.received, doc.validate = none := by
  have safe :=
    run_safe events ⟨start, fun _ loaded => by simp [Run.new] at loaded, Run.new_inOrder⟩ ran
  intro doc received
  exact safe.loaded doc (((List.sublist_append_left _ _).trans
    (List.sublist_append_left _ _)).trans safe.inOrder.sublist |>.subset received)

def updateAndReload : List Event :=
  [.api (.arrive "secret" (.updateConfig (.ok Server.validDocument) .done)),
    .api (.saveTimestamp 1700000000 .done 1700000000),
    .watch .publish, .watch .watchReceive, .load .done, .watch .send, .watch .receive]

theorem run_received_validated_updateAndReload :
    ∃ answers final, (⟨Server.emptyServer, Run.new⟩ : Deployment).run updateAndReload =
        some (answers, final) ∧ final.watch.received = [Server.validDocument] ∧
      ∀ doc ∈ final.watch.received, doc.validate = none := by
  have ran : (⟨Server.emptyServer, Run.new⟩ : Deployment).run updateAndReload = some (_, _) := rfl
  exact ⟨_, _, ran, rfl, run_received_validated _ updateAndReload Server.emptyServer_stored ran⟩

end Deployment

end TransisiDB.Api
