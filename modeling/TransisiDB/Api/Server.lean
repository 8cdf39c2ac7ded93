import TransisiDB.Config.RedisKeys

set_option autoImplicit false

/-!
# The management API over the configuration store

`Server` of package `api` (its source is `internal/database/pool.go`): the `authMiddleware`
in front of every `/api/v1` and `/api/v2` route, and the handlers of the configuration and
table routes, over the Redis store of `TransisiDB.Config.RedisKeys`.  A decoded request body
(`ShouldBindJSON`), the clock and how each Redis command ends are the environment's choices,
carried by the request.

gin serves requests concurrently.  Each of these handlers issues one Redis command, except
`handleUpdateConfig`, whose `SaveConfig` issues two: `SET` of the configuration, then of the
time.  A run of the server (`Server.step`) is any order of arrivals of requests and of those
second `SET`s.

* `authMiddleware_eq_none_iff`: the `Authorization` headers the middleware lets through.
* `run_stored`: over every run, from a store that holds what `SaveConfig` writes, the main
  key holds only configurations that passed `Validate`, and `GET /config` answers no other.
* `run_tableCell`: the value under a table's key after a run is the fold of the run's
  authorized writes of that very table (`Event.tableEffect`).
-/

namespace TransisiDB.Api

open TransisiDB.RedisStore

def statusOK : Nat := 200

def statusBadRequest : Nat := 400

def statusUnauthorized : Nat := 401

def statusNotFound : Nat := 404

def statusInternalServerError : Nat := 500

/-- The JSON body of a response. -/
inductive Body where
  | error (message : String)
  | message (text : String)
  | messageAt (text : String) (timestamp : Int)
  | config (doc : ConfigDocument)
  | table (tableConfig : TableConfig)
  | tables (names : List String)

/-- A response: its status code and body. -/
structure Response where
  status : Nat
  body : Body

/-! ## `authMiddleware` -/

/-- The prefix `authMiddleware` removes. -/
def bearerPrefix : String := "Bearer "

/-- `apiKey[7:]` if `len(apiKey) > 7 && apiKey[:7] == "Bearer "`, else `apiKey`. -/
def stripBearer (apiKey : String) : String :=
  if apiKey.length > 7 ∧ apiKey.data.take 7 = bearerPrefix.data then ⟨apiKey.data.drop 7⟩
  else apiKey

/-- `authMiddleware`: the answer of a request it aborts, `none` where it calls `c.Next()`. -/
def authMiddleware (configuredKey authorization : String) : Option Response :=
  if authorization = "" then some ⟨statusUnauthorized, .error "Missing Authorization header"⟩
  else if stripBearer authorization ≠ configuredKey then
    some ⟨statusUnauthorized, .error "Invalid API key"⟩
  else none

theorem length_bearer_append (rest : String) : (bearerPrefix ++ rest).length = rest.length + 7 := by
  rw [String.length_append, Nat.add_comm]
  rfl

theorem stripBearer_bearer_append {rest : String} (nonempty : rest ≠ "") :
    stripBearer (bearerPrefix ++ rest) = rest := by
  have sevenChars : bearerPrefix.data.length = 7 := rfl
  have longer := length_pos_of_ne_empty nonempty
  have prefixed : (bearerPrefix ++ rest).data.take 7 = bearerPrefix.data := by
    rw [String.data_append, List.take_left' sevenChars]
  have named : (bearerPrefix ++ rest).data.drop 7 = rest.data := by
    rw [String.data_append, List.drop_left' sevenChars]
  have longerKey : (bearerPrefix ++ rest).length > 7 := by
    rw [length_bearer_append]
    omega
  simp only [stripBearer, prefixed, named, longerKey, and_self, if_true]

theorem stripBearer_cases (header : String) :
    stripBearer header = header ∨
      ∃ rest, rest ≠ "" ∧ header = bearerPrefix ++ rest ∧ stripBearer header = rest := by
  unfold stripBearer
  split_ifs with prefixed
  · refine .inr ⟨⟨header.data.drop 7⟩, fun empty => ?_, String.ext ?_, rfl⟩
    · have drained : header.data.drop 7 = [] := congrArg String.data empty
      have longer : header.data.length > 7 := prefixed.1
      simp only [List.drop_eq_nil_iff] at drained
      omega
    · rw [String.data_append, ← prefixed.2]
      exact (List.take_append_drop 7 header.data).symm
  · exact .inl rfl

theorem bearer_append_ne_self {rest : String} : bearerPrefix ++ rest ≠ rest := fun same => by
  have lengths := congrArg String.length same
  rw [length_bearer_append] at lengths
  omega

theorem bearer_append_ne_empty (rest : String) : bearerPrefix ++ rest ≠ "" := fun same => by
  have lengths := congrArg String.length same
  rw [length_bearer_append] at lengths
  exact absurd lengths (by simp)

/-- The requests the middleware lets through: a non-empty key, sent bare or after `Bearer `. -/
theorem authMiddleware_eq_none_iff (configuredKey authorization : String) :
    authMiddleware configuredKey authorization = none ↔
      configuredKey ≠ "" ∧
        (authorization = bearerPrefix ++ configuredKey ∨
          (authorization = configuredKey ∧
            ¬∃ rest, rest ≠ "" ∧ configuredKey = bearerPrefix ++ rest)) := by
  have passes : authMiddleware configuredKey authorization = none ↔
      authorization ≠ "" ∧ stripBearer authorization = configuredKey := by
    unfold authMiddleware
    split_ifs <;> simp_all
  rw [passes]
  constructor
  · rintro ⟨present, rfl⟩
    rcases stripBearer_cases authorization with same | ⟨rest, nonempty, rfl, stripped⟩
    · refine ⟨by rwa [same], .inr ⟨same.symm, ?_⟩⟩
      rintro ⟨rest, nonempty, split⟩
      rw [same] at split
      subst split
      exact bearer_append_ne_self (same.symm.trans (stripBearer_bearer_append nonempty))
    · exact ⟨by rwa [stripped], .inl (by rw [stripped])⟩
  · rintro ⟨nonempty, rfl | ⟨rfl, unprefixed⟩⟩
    · exact ⟨bearer_append_ne_empty _, stripBearer_bearer_append nonempty⟩
    · refine ⟨nonempty, ?_⟩
      rcases stripBearer_cases authorization with same | ⟨rest, restNonempty, split, _⟩
      · exact same
      · exact absurd ⟨rest, restNonempty, split⟩ unprefixed

/-! ## The handlers -/

/-- The end of each handler: `failure err` if its last store call failed, else `success`. -/
def respond (call : Option String × Keyspace) (failure : String → Response) (success : Response) :
    Response × Keyspace :=
  (match call.1 with
    | some err => failure err
    | none => success, call.2)

section Handlers

variable (redis : Keyspace)

def handleGetConfig (getConfig : Outcome) : Response :=
  match loadConfig redis getConfig with
  | .error err => ⟨statusInternalServerError, .error ("Failed to load config: " ++ err)⟩
  | .ok doc => ⟨statusOK, .config doc⟩

/-- `handleUpdateConfig`; `answeredAt` is the `time.Now().Unix()` of its answer. -/
def handleUpdateConfig (body : Except String ConfigDocument) (now : Int)
    (setConfig setTimestamp : Outcome) (answeredAt : Int) : Response × Keyspace :=
  match body with
  | .error err => (⟨statusBadRequest, .error ("Invalid config format: " ++ err)⟩, redis)
  | .ok newConfig =>
      match newConfig.validate with
      | some err =>
          (⟨statusBadRequest, .error ("Configuration validation failed: " ++ err)⟩, redis)
      | none =>
          respond (saveConfig redis newConfig now setConfig setTimestamp)
            (fun err => ⟨statusInternalServerError, .error ("Failed to save config: " ++ err)⟩)
            ⟨statusOK, .messageAt "Configuration updated successfully" answeredAt⟩

/-- `handleReloadConfig`: `PublishReload` publishes on a channel and writes no key. -/
def handleReloadConfig (publish : Outcome) (answeredAt : Int) : Response :=
  match publish.error? with
  | some err => ⟨statusInternalServerError, .error ("Failed to publish reload: " ++ err)⟩
  | none => ⟨statusOK, .messageAt "Reload notification published" answeredAt⟩

def handleListTables (scan : Outcome) : Response :=
  match listTables redis scan with
  | .error err => ⟨statusInternalServerError, .error ("Failed to list tables: " ++ err)⟩
  | .ok tables => ⟨statusOK, .tables tables⟩

/-- `handleGetTable`: every error of `LoadTableConfig` is answered `404`. -/
def handleGetTable (tableName : String) (getTable : Outcome) : Response :=
  match loadTableConfig redis tableName getTable with
  | .error err => ⟨statusNotFound, .error ("Table not found: " ++ err)⟩
  | .ok tableConfig => ⟨statusOK, .table tableConfig⟩

/-- `handleUpdateTable`: the body is decoded and stored with no further check. -/
def handleUpdateTable (tableName : String) (body : Except String TableConfig)
    (setTable : Outcome) : Response × Keyspace :=
  match body with
  | .error err => (⟨statusBadRequest, .error ("Invalid table config: " ++ err)⟩, redis)
  | .ok tableConfig =>
      respond (saveTableConfig redis tableName tableConfig setTable)
        (fun err => ⟨statusInternalServerError, .error ("Failed to save table config: " ++ err)⟩)
        ⟨statusOK, .message ("Table '" ++ tableName ++ "' configuration updated")⟩

def handleDeleteTable (tableName : String) (delTable : Outcome) : Response × Keyspace :=
  respond (deleteTableConfig redis tableName delTable)
    (fun err => ⟨statusInternalServerError, .error ("Failed to delete table config: " ++ err)⟩)
    ⟨statusOK, .message ("Table '" ++ tableName ++ "' configuration deleted")⟩

/-- The first half of `handleUpdateConfig`: decoding, `Validate`, the `SET` of the config. -/
def beginUpdateConfig (body : Except String ConfigDocument) (setConfig : Outcome) :
    Option Response × Keyspace :=
  match body with
  | .error err => (some ⟨statusBadRequest, .error ("Invalid config format: " ++ err)⟩, redis)
  | .ok newConfig =>
      match newConfig.validate with
      | some err =>
          (some ⟨statusBadRequest, .error ("Configuration validation failed: " ++ err)⟩, redis)
      | none =>
          let call := saveConfigDocument redis newConfig setConfig
          (call.1.map fun err =>
            ⟨statusInternalServerError, .error ("Failed to save config: " ++ err)⟩, call.2)

/-- The second half: the `SET` of the time, and the answer. -/
def finishUpdateConfig (now : Int) (setTimestamp : Outcome) (answeredAt : Int) :
    Response × Keyspace :=
  respond (saveConfigTimestamp redis now setTimestamp)
    (fun err => ⟨statusInternalServerError, .error ("Failed to save config: " ++ err)⟩)
    ⟨statusOK, .messageAt "Configuration updated successfully" answeredAt⟩

end Handlers

/-! ## The server -/

/-- A request to a configuration or table route, with the environment's choices. -/
inductive Route where
  | getConfig (getConfig : Outcome)
  | updateConfig (body : Except String ConfigDocument) (setConfig : Outcome)
  | reloadConfig (publish : Outcome) (answeredAt : Int)
  | listTables (scan : Outcome)
  | getTable (tableName : String) (getTable : Outcome)
  | updateTable (tableName : String) (body : Except String TableConfig) (setTable : Outcome)
  | deleteTable (tableName : String) (delTable : Outcome)

/-- The handler of a route the middleware let through, to the end of its first Redis command. -/
def dispatch (redis : Keyspace) : Route → Option Response × Keyspace
  | .getConfig getConfig => (some (handleGetConfig redis getConfig), redis)
  | .updateConfig body setConfig => beginUpdateConfig redis body setConfig
  | .reloadConfig publish answeredAt => (some (handleReloadConfig publish answeredAt), redis)
  | .listTables scan => (some (handleListTables redis scan), redis)
  | .getTable tableName getTable => (some (handleGetTable redis tableName getTable), redis)
  | .updateTable tableName body setTable =>
      let (response, redis) := handleUpdateTable redis tableName body setTable
      (some response, redis)
  | .deleteTable tableName delTable =>
      let (response, redis) := handleDeleteTable redis tableName delTable
      (some response, redis)

/-- The API server and its store. -/
structure Server where
  apiKey : String
  redis : Keyspace
  pending : Nat

/-- What happens next on the server. -/
inductive Event where
  | arrive (authorization : String) (route : Route)
  | saveTimestamp (now : Int) (setTimestamp : Outcome) (answeredAt : Int)

namespace Server

/-- One event: its answer, if any, and the server after it; `none` if it cannot happen. -/
def step (server : Server) : Event → Option (Option Response × Server)
  | .arrive authorization route =>
      match authMiddleware server.apiKey authorization with
      | some rejected => some (some rejected, server)
      | none =>
          let handled := dispatch server.redis route
          some (handled.1,
            { server with
              redis := handled.2
              pending := if handled.1.isNone then server.pending + 1 else server.pending })
  | .saveTimestamp now setTimestamp answeredAt =>
      match server.pending with
      | 0 => none
      | pending + 1 =>
          let finished := finishUpdateConfig server.redis now setTimestamp answeredAt
          some (some finished.1, { server with redis := finished.2, pending })

/-- A run: the answers in the order they are given, and the server after it. -/
def run : Server → List Event → Option (List Response × Server)
  | server, [] => some ([], server)
  | server, event :: rest =>
      (server.step event).bind fun (answer, next) =>
        (run next rest).map fun (answers, final) => (answer.toList ++ answers, final)

theorem run_cons (server : Server) (event : Event) (rest : List Event) :
    server.run (event :: rest) =
      (server.step event).bind fun (answer, next) =>
        (next.run rest).map fun (answers, final) => (answer.toList ++ answers, final) :=
  rfl

theorem run_cons_eq_some {server : Server} {event : Event} {rest : List Event}
    {answers : List Response} {final : Server}
    (ran : server.run (event :: rest) = some (answers, final)) :
    ∃ answer next later, server.step event = some (answer, next) ∧
      next.run rest = some (later, final) ∧ answers = answer.toList ++ later := by
  rw [run_cons] at ran
  obtain ⟨⟨answer, next⟩, stepEq, ranRest⟩ := Option.bind_eq_some.mp ran
  obtain ⟨⟨later, final'⟩, restEq, joined⟩ := Option.map_eq_some'.mp ranRest
  cases joined
  exact ⟨answer, next, later, stepEq, restEq, rfl⟩

theorem run_preserves (Holds : Server → Prop) (Good : Response → Prop)
    (stepped : ∀ {server : Server} {event : Event} {answer : Option Response} {next : Server},
      Holds server → server.step event = some (answer, next) →
        Holds next ∧ ∀ response, answer = some response → Good response) :
    ∀ (events : List Event) {server : Server} {answers : List Response} {final : Server},
      Holds server → server.run events = some (answers, final) →
        Holds final ∧ ∀ response ∈ answers, Good response := by
  intro events
  induction events with
  | nil =>
      intro server answers final holds ran
      cases ran
      exact ⟨holds, by simp⟩
  | cons event rest inductionHypothesis =>
      intro server answers final holds ran
      obtain ⟨answer, next, later, stepEq, restEq, rfl⟩ := run_cons_eq_some ran
      obtain ⟨holdsNext, good⟩ := stepped holds stepEq
      obtain ⟨holdsFinal, goodLater⟩ := inductionHypothesis holdsNext restEq
      refine ⟨holdsFinal, fun response mem => ?_⟩
      rcases List.mem_append.mp mem with first | later
      · exact good response (Option.mem_toList.mp first)
      · exact goodLater response later

theorem run_keeps (Holds : Server → Prop)
    (stepped : ∀ {server : Server} {event : Event} {answer : Option Response} {next : Server},
      Holds server → server.step event = some (answer, next) → Holds next)
    (events : List Event) {server : Server} {answers : List Response} {final : Server}
    (holds : Holds server) (ran : server.run events = some (answers, final)) : Holds final :=
  (run_preserves Holds (fun _ => True)
    (fun holds stepEq => ⟨stepped holds stepEq, fun _ _ => trivial⟩) events holds ran).1

end Server

/-! ## What each step writes -/

/-- What an authorized route leaves under `key`, from `cell` before it. -/
def Route.effect (key : String) (cell : Option Value) : Route → Option Value
  | .updateConfig (.ok doc) setConfig =>
      if doc.validate = none ∧ setConfig.applied ∧ key = mainKey then some (.config doc) else cell
  | .updateTable tableName (.ok tableConfig) setTable =>
      if setTable.applied ∧ key = tableKey tableName then some (.table tableConfig) else cell
  | .deleteTable tableName delTable =>
      if delTable.applied ∧ key = tableKey tableName then none else cell
  | _ => cell

/-- What an event leaves under `key`. -/
def Event.effect (apiKey key : String) (cell : Option Value) : Event → Option Value
  | .arrive authorization route =>
      if (authMiddleware apiKey authorization).isNone then route.effect key cell else cell
  | .saveTimestamp now setTimestamp _ =>
      if setTimestamp.applied ∧ key = timestampKey then some (.timestamp now) else cell

theorem dispatch_get (redis : Keyspace) (route : Route) (key : String) :
    (dispatch redis route).2.get key = route.effect key (redis.get key) := by
  cases route with
  | updateConfig body setConfig =>
      rcases body with err | doc
      · rfl
      · simp only [dispatch, beginUpdateConfig, Route.effect]
        cases doc.validate with
        | some err => simp
        | none => simp [saveConfigDocument_get]
  | updateTable tableName body setTable =>
      rcases body with err | tableConfig
      · rfl
      · simp [dispatch, handleUpdateTable, respond, Route.effect, saveTableConfig_get]
  | deleteTable tableName delTable =>
      simp [dispatch, handleDeleteTable, respond, Route.effect, deleteTableConfig_get]
  | getConfig | reloadConfig | listTables | getTable => rfl

namespace Server

variable {server next : Server} {event : Event} {answer : Option Response}

theorem step_get (stepped : server.step event = some (answer, next)) :
    next.apiKey = server.apiKey ∧
      ∀ key, next.redis.get key = event.effect server.apiKey key (server.redis.get key) := by
  cases event with
  | arrive authorization route =>
      cases passed : authMiddleware server.apiKey authorization with
      | some rejected =>
          simp only [step, passed, Option.some.injEq, Prod.mk.injEq] at stepped
          obtain ⟨-, rfl⟩ := stepped
          exact ⟨rfl, fun key => by simp [Event.effect, passed]⟩
      | none =>
          simp only [step, passed, Option.some.injEq, Prod.mk.injEq] at stepped
          obtain ⟨-, rfl⟩ := stepped
          exact ⟨rfl, fun key => by simp [Event.effect, passed, dispatch_get]⟩
  | saveTimestamp now setTimestamp answeredAt =>
      cases pending : server.pending with
      | zero => simp [step, pending] at stepped
      | succ pending =>
          simp only [step, pending, Option.some.injEq, Prod.mk.injEq] at stepped
          obtain ⟨-, rfl⟩ := stepped
          exact ⟨rfl, fun key => by
            simp [Event.effect, finishUpdateConfig, respond, saveConfigTimestamp_get]⟩

theorem run_get : ∀ (events : List Event) {server : Server} {answers : List Response}
    {final : Server}, server.run events = some (answers, final) →
      final.apiKey = server.apiKey ∧ ∀ key, final.redis.get key =
        events.foldl (fun cell event => event.effect server.apiKey key cell) (server.redis.get key)
  | [], _, _, _, ran => by
      cases ran
      exact ⟨rfl, fun _ => rfl⟩
  | event :: rest, server, answers, final, ran => by
      obtain ⟨answer, next, later, stepEq, restEq, -⟩ := run_cons_eq_some ran
      obtain ⟨sameKey, stepped⟩ := step_get stepEq
      obtain ⟨sameKeyRest, ranRest⟩ := run_get rest restEq
      refine ⟨sameKeyRest.trans sameKey, fun key => ?_⟩
      rw [ranRest, stepped, sameKey]
      rfl

end Server

/-! ## The configuration the store holds over every run -/

/-- What `SaveConfig` writes: a valid configuration under the main key, a time under the other. -/
def Stored (redis : Keyspace) : Prop :=
  (∀ value, redis.get mainKey = some value → ∃ doc, value = .config doc ∧ doc.validate = none) ∧
    ∀ value, redis.get timestampKey = some value → ∃ unix, value = .timestamp unix

theorem Route.effect_mainKey (cell : Option Value) (route : Route) :
    route.effect mainKey cell = cell ∨
      ∃ doc, doc.validate = none ∧ route.effect mainKey cell = some (.config doc) := by
  unfold Route.effect
  split
  · split_ifs with updated
    · exact .inr ⟨_, updated.1, rfl⟩
    · exact .inl rfl
  · exact .inl (if_neg fun written => tableKey_ne_mainKey _ written.2.symm)
  · exact .inl (if_neg fun written => tableKey_ne_mainKey _ written.2.symm)
  · exact .inl rfl

theorem Route.effect_timestampKey (cell : Option Value) (route : Route) :
    route.effect timestampKey cell = cell := by
  unfold Route.effect
  split
  · exact if_neg fun written => mainKey_ne_timestampKey written.2.2.symm
  · exact if_neg fun written => tableKey_ne_timestampKey _ written.2.symm
  · exact if_neg fun written => tableKey_ne_timestampKey _ written.2.symm
  · rfl

theorem Event.effect_mainKey (apiKey : String) (cell : Option Value) (event : Event) :
    event.effect apiKey mainKey cell = cell ∨
      ∃ doc, doc.validate = none ∧ event.effect apiKey mainKey cell = some (.config doc) := by
  unfold Event.effect
  split
  · split_ifs
    · exact Route.effect_mainKey cell _
    · exact .inl rfl
  · exact .inl (if_neg fun written => mainKey_ne_timestampKey written.2)

theorem Event.effect_timestampKey (apiKey : String) (cell : Option Value) (event : Event) :
    event.effect apiKey timestampKey cell = cell ∨
      ∃ unix, event.effect apiKey timestampKey cell = some (.timestamp unix) := by
  unfold Event.effect
  split
  · split_ifs
    · exact .inl (Route.effect_timestampKey cell _)
    · exact .inl rfl
  · split_ifs
    · exact .inr ⟨_, rfl⟩
    · exact .inl rfl

theorem dispatch_answer_config {redis : Keyspace} {route : Route} {response : Response}
    {doc : ConfigDocument} (answered : (dispatch redis route).1 = some response)
    (carries : response.body = .config doc) : redis.get mainKey = some (.config doc) := by
  cases route with
  | getConfig getConfig =>
      cases answered
      unfold handleGetConfig at carries
      split at carries
      · cases carries
      · next loaded => cases carries; exact loadConfig_eq_ok loaded
  | updateConfig body setConfig =>
      rcases body with err | newConfig
      · cases answered; cases carries
      · simp only [dispatch, beginUpdateConfig] at answered
        split at answered
        · cases answered; cases carries
        · obtain ⟨err, -, rfl⟩ := Option.map_eq_some'.mp answered
          cases carries
  | reloadConfig publish answeredAt =>
      cases answered
      unfold handleReloadConfig at carries
      split at carries <;> cases carries
  | listTables scan =>
      cases answered
      unfold handleListTables at carries
      split at carries <;> cases carries
  | getTable tableName getTable =>
      cases answered
      unfold handleGetTable at carries
      split at carries <;> cases carries
  | updateTable tableName body setTable =>
      rcases body with err | tableConfig <;> cases answered
      · cases carries
      · simp only [handleUpdateTable, respond] at carries
        split at carries <;> cases carries
  | deleteTable tableName delTable =>
      cases answered
      simp only [handleDeleteTable, respond] at carries
      split at carries <;> cases carries

namespace Server

variable {server next : Server} {event : Event} {answer : Option Response}

theorem step_answer_config {response : Response} {doc : ConfigDocument}
    (stepped : server.step event = some (some response, next))
    (carries : response.body = .config doc) : server.redis.get mainKey = some (.config doc) := by
  cases event with
  | arrive authorization route =>
      cases passed : authMiddleware server.apiKey authorization with
      | some rejected =>
          simp only [step, passed, Option.some.injEq, Prod.mk.injEq] at stepped
          obtain ⟨rfl, -⟩ := stepped
          unfold authMiddleware at passed
          split_ifs at passed <;> (cases passed; cases carries)
      | none =>
          simp only [step, passed, Option.some.injEq, Prod.mk.injEq] at stepped
          exact dispatch_answer_config stepped.1 carries
  | saveTimestamp now setTimestamp answeredAt =>
      cases pending : server.pending with
      | zero => simp [step, pending] at stepped
      | succ pending =>
          simp only [step, pending, Option.some.injEq, Prod.mk.injEq] at stepped
          obtain ⟨rfl, -⟩ := stepped
          simp only [finishUpdateConfig, respond] at carries
          split at carries <;> cases carries

theorem step_stored (stored : Stored server.redis)
    (stepped : server.step event = some (answer, next)) :
    Stored next.redis ∧
      ∀ response, answer = some response →
        ∀ doc, response.body = .config doc → doc.validate = none := by
  obtain ⟨-, written⟩ := step_get stepped
  refine ⟨⟨fun value held => ?_, fun value held => ?_⟩, ?_⟩
  · rw [written] at held
    rcases Event.effect_mainKey server.apiKey (server.redis.get mainKey) event with
      same | ⟨doc, valid, set⟩
    · exact stored.1 value (same ▸ held)
    · rw [set] at held
      exact ⟨doc, (Option.some.inj held).symm, valid⟩
  · rw [written] at held
    rcases Event.effect_timestampKey server.apiKey (server.redis.get timestampKey) event with
      same | ⟨unix, set⟩
    · exact stored.2 value (same ▸ held)
    · rw [set] at held
      exact ⟨unix, (Option.some.inj held).symm⟩
  · rintro response rfl doc carries
    obtain ⟨_, held, valid⟩ := stored.1 _ (step_answer_config stepped carries)
    cases held
    exact valid

/-- Every run keeps the store as `SaveConfig` writes it, and `GET /config` answers valid ones. -/
theorem run_stored (events : List Event) {answers : List Response} {final : Server}
    (start : Stored server.redis) (ran : server.run events = some (answers, final)) :
    Stored final.redis ∧
      ∀ response ∈ answers, ∀ doc, response.body = .config doc → doc.validate = none :=
  run_preserves (fun server => Stored server.redis)
    (fun response => ∀ doc, response.body = .config doc → doc.validate = none)
    step_stored events start ran

def emptyServer : Server := ⟨"secret", [], 0⟩

def validDocument : ConfigDocument :=
  ⟨⟨"localhost", 3306⟩, ⟨3307⟩, ⟨⟨1000, 4, "BANKERS_ROUND"⟩, ⟨1000, 3⟩, GoMap.empty⟩⟩

def interleavedRun : List Event :=
  [.arrive "Bearer secret" (.updateConfig (.ok validDocument) .done),
    .arrive "secret" (.updateTable "orders" (.ok ⟨true, GoMap.empty⟩) .done),
    .arrive "wrong" (.deleteTable "orders" .done),
    .arrive "secret" (.getConfig .done),
    .saveTimestamp 1700000000 .done 1700000000]

theorem emptyServer_stored : Stored emptyServer.redis :=
  ⟨fun _ held => (nomatch held), fun _ held => (nomatch held)⟩

theorem run_stored_interleavedRun :
    ∃ answers final, emptyServer.run interleavedRun = some (answers, final) ∧
      Stored final.redis ∧
      ∀ response ∈ answers, ∀ doc, response.body = .config doc → doc.validate = none := by
  have ran : emptyServer.run interleavedRun = some (_, _) := rfl
  exact ⟨_, _, ran, run_stored interleavedRun emptyServer_stored ran⟩

end Server

/-! ## The store of tables over every run -/

/-- What an authorized route does to the table `name`. -/
def Route.tableEffect (name : String) (cell : Option Value) : Route → Option Value
  | .updateTable tableName (.ok tableConfig) setTable =>
      if setTable.applied ∧ name = tableName then some (.table tableConfig) else cell
  | .deleteTable tableName delTable => if delTable.applied ∧ name = tableName then none else cell
  | _ => cell

/-- What an event does to the table `name`. -/
def Event.tableEffect (apiKey name : String) (cell : Option Value) : Event → Option Value
  | .arrive authorization route =>
      if (authMiddleware apiKey authorization).isNone then route.tableEffect name cell else cell
  | .saveTimestamp .. => cell

theorem Route.effect_tableKey (name : String) (cell : Option Value) (route : Route) :
    route.effect (tableKey name) cell = route.tableEffect name cell := by
  cases route with
  | updateConfig body setConfig =>
      cases body <;> simp [Route.effect, Route.tableEffect, tableKey_ne_mainKey]
  | updateTable tableName body setTable =>
      cases body <;> simp [Route.effect, Route.tableEffect, tableKey_inj]
  | deleteTable tableName delTable => simp [Route.effect, Route.tableEffect, tableKey_inj]
  | getConfig | reloadConfig | listTables | getTable => rfl

theorem Event.effect_tableKey (apiKey name : String) (cell : Option Value) (event : Event) :
    event.effect apiKey (tableKey name) cell = event.tableEffect apiKey name cell := by
  cases event with
  | arrive authorization route => simp [Event.effect, Event.tableEffect, Route.effect_tableKey]
  | saveTimestamp now setTimestamp answeredAt =>
      simp [Event.effect, Event.tableEffect, tableKey_ne_timestampKey]

theorem Route.tableEffect_cases (name : String) (cell : Option Value) (route : Route) :
    route.tableEffect name cell = cell ∨
      (∃ tableConfig, route.tableEffect name cell = some (.table tableConfig)) ∨
        route.tableEffect name cell = none := by
  unfold Route.tableEffect
  split
  · split_ifs
    · exact .inr (.inl ⟨_, rfl⟩)
    · exact .inl rfl
  · split_ifs
    · exact .inr (.inr rfl)
    · exact .inl rfl
  · exact .inl rfl

theorem Event.tableEffect_cases (apiKey name : String) (cell : Option Value) (event : Event) :
    event.tableEffect apiKey name cell = cell ∨
      (∃ tableConfig, event.tableEffect apiKey name cell = some (.table tableConfig)) ∨
        event.tableEffect apiKey name cell = none := by
  unfold Event.tableEffect
  split
  · split_ifs
    · exact Route.tableEffect_cases name cell _
    · exact .inl rfl
  · exact .inl rfl

namespace Server

variable {server : Server} {answers : List Response} {final : Server}

/-- A table's key holds the fold of the authorized `PUT`s and `DELETE`s of that table. -/
theorem run_tableCell (events : List Event) (ran : server.run events = some (answers, final))
    (name : String) :
    final.redis.get (tableKey name) =
      events.foldl (fun cell event => event.tableEffect server.apiKey name cell)
        (server.redis.get (tableKey name)) := by
  rw [(run_get events ran).2 (tableKey name)]
  simp only [Event.effect_tableKey]

theorem run_tableCell_interleavedRun :
    ∃ answers final, emptyServer.run interleavedRun = some (answers, final) ∧
      final.redis.get (tableKey "orders") =
        interleavedRun.foldl (fun cell event => event.tableEffect emptyServer.apiKey "orders" cell)
          (emptyServer.redis.get (tableKey "orders")) := by
  have ran : emptyServer.run interleavedRun = some (_, _) := rfl
  exact ⟨_, _, ran, run_tableCell interleavedRun ran "orders"⟩

/-- Every table key holds a table configuration. -/
def TablesStored (redis : Keyspace) : Prop :=
  ∀ name value, redis.get (tableKey name) = some value → ∃ tableConfig, value = .table tableConfig

theorem step_tablesStored {event : Event} {answer : Option Response} {next : Server}
    (stored : TablesStored server.redis) (stepped : server.step event = some (answer, next)) :
    TablesStored next.redis := by
  obtain ⟨-, written⟩ := step_get stepped
  intro name value held
  rw [written, Event.effect_tableKey] at held
  rcases Event.tableEffect_cases server.apiKey name (server.redis.get (tableKey name)) event with
    same | ⟨tableConfig, set⟩ | removed
  · exact stored name value (same ▸ held)
  · rw [set] at held
    exact ⟨tableConfig, (Option.some.inj held).symm⟩
  · rw [removed] at held
    cases held

/-- After any run, `GET /tables` lists exactly the names `GET /tables/:name` finds. -/
theorem run_listTables_iff_getTable (events : List Event) (start : TablesStored server.redis)
    (ran : server.run events = some (answers, final)) {names : List String}
    (listed : handleListTables final.redis .done = ⟨statusOK, .tables names⟩) (name : String) :
    name ∈ names ↔ name ≠ "" ∧ (handleGetTable final.redis name .done).status = statusOK := by
  have stored :=
    run_keeps (fun server => TablesStored server.redis) step_tablesStored events start ran
  have scanned : listTables final.redis .done = .ok names := by
    unfold handleListTables at listed
    split at listed
    · cases listed
    · next found => cases listed; exact found
  rw [mem_listTables final.redis scanned name]
  refine and_congr_right fun _ => ⟨fun found => ?_, fun answered => ?_⟩
  · obtain ⟨value, held⟩ := Option.isSome_iff_exists.mp found
    obtain ⟨tableConfig, rfl⟩ := stored name value held
    simp [handleGetTable, loadTableConfig, Outcome.error?, held, statusOK]
  · unfold handleGetTable at answered
    split at answered
    · cases answered
    · next loaded => simp [loadTableConfig_eq_ok loaded]

theorem emptyServer_tablesStored : TablesStored emptyServer.redis :=
  fun _ _ held => (nomatch held)

theorem run_listTables_iff_getTable_interleavedRun :
    ∃ answers final names, emptyServer.run interleavedRun = some (answers, final) ∧
      TablesStored emptyServer.redis ∧
      handleListTables final.redis .done = ⟨statusOK, .tables names⟩ ∧
      ("orders" ∈ names ↔
        "orders" ≠ "" ∧ (handleGetTable final.redis "orders" .done).status = statusOK) := by
  have ran : emptyServer.run interleavedRun = some (_, _) := rfl
  exact ⟨_, _, _, ran, emptyServer_tablesStored, rfl,
    run_listTables_iff_getTable interleavedRun emptyServer_tablesStored ran rfl "orders"⟩

end Server

end TransisiDB.Api
