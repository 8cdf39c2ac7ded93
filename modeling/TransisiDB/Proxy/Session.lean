import TransisiDB.Proxy.Pool
import TransisiDB.Sql.Parser

set_option autoImplicit false

/-!
# The session's command loop

`Session.handleCommands`, `Session.handleQuery` and `Session.releaseBackendConnection` of
`internal/proxy/session.go`.

`sqlparser.Parse` is the argument `parse`: `none` for a text the library rejects.  What
`forwardCommand` sends is a `Forwarded`: the client's packet unchanged, or a `COM_QUERY`
packet with the same sequence id whose text is `sqlparser.String` of a rewritten statement.
The source of `forwardCommand` stops after it writes the command (its response relay is
missing), so a forwarded command counts as one packet written to the backend.
-/

namespace TransisiDB.Proxy

open TransisiDB.Sql

/-- `Session`: its leased connection, its configuration, the database, the transaction flag. -/
structure Session where
  config : Config
  backendConn : BackendConn
  database : String
  inTx : Bool

/-- The command `handleQuery` sends to the backend. -/
inductive Forwarded where
  | original
  | rewritten (stmt : Statement)

/-- A client packet, by its command byte. -/
inductive Command where
  | quit
  | ping
  | initDb (database : String)
  | query (text : String)
  | other (code : Nat)

/-- The transaction tracking of `handleQuery`: `some true` starts one, `some false` ends it. -/
def transactionControl (query : String) : Option Bool :=
  let upperQuery := toUpper (trimSpace query)
  if upperQuery = "BEGIN" ∨ upperQuery = "START TRANSACTION" then some true
  else if upperQuery = "COMMIT" ∨ upperQuery = "ROLLBACK" then some false
  else none

/-- The conversion loop of `handleQuery`: each string read by `Sscanf(%f)`, over the ratio. -/
def convertValues (ratio : Int) (values : Values) : String → Option ℚ :=
  fun col => match values col with
    | some (.string strVal) => some ((sscanFloat strVal).getD 0 / ratio)
    | _ => none

/-- The rewriting part of `handleQuery`, from the result of `sqlparser.Parse`. -/
def rewriteQuery [Keywords] (config : Config) : Option Statement → Forwarded
  | none => .original
  | some stmt =>
      let parser : Parser := ⟨config.tables⟩
      let pq := parser.parse stmt
      if !pq.needsTransform then .original
      else
        match parser.rewriteForDualWrite pq (convertValues config.conversion.ratio pq.values) with
        | .original => .original
        | .statement newStmt => .rewritten newStmt

namespace Session

/-- `NewSession` once `Handle` has acquired `conn`. -/
def new (config : Config) (conn : BackendConn) : Session :=
  ⟨config, conn, "", false⟩

variable (parse : String → Option Statement) [Keywords]

/-- Record a transaction statement on the session and on its backend connection. -/
def trackTransaction (s : Session) (query : String) : Session :=
  match transactionControl query with
  | some inTx => { s with inTx, backendConn := s.backendConn.setInTransaction inTx }
  | none => s

/-- `forwardCommand`, as far as the source has it: the command is written to the backend. -/
def forwardCommand (s : Session) : Session :=
  { s with backendConn := s.backendConn.exchange 1 }

/-- `handleQuery`: the session afterwards and the command sent to the backend. -/
def handleQuery (s : Session) (query : String) : Session × Forwarded :=
  ((s.trackTransaction query).forwardCommand, rewriteQuery s.config (parse query))

/-- One command of `handleCommands` other than `COM_QUIT`. -/
def handleCommand (s : Session) : Command → Session
  | .initDb database =>
      let s := if database = "" then s
        else { s with database, backendConn := s.backendConn.setDatabase database }
      s.forwardCommand
  | .query text => (s.handleQuery parse text).1
  | _ => s.forwardCommand

/-- `handleCommands`: commands until `COM_QUIT`, or until reading the next one fails. -/
def handleCommands (s : Session) : List Command → Session
  | [] => s
  | .quit :: _ => s
  | command :: rest => handleCommands (s.handleCommand parse command) rest

/-- `releaseBackendConnection`: hand the connection back to the pool. -/
def releaseBackendConnection (s : Session) (pool : BackendPool) : BackendPool :=
  pool.release s.backendConn

/-! ## The transaction flag at release -/

/-- The texts of the `COM_QUERY` packets a session handles before `COM_QUIT`. -/
def queriesBeforeQuit : List Command → List String
  | [] => []
  | .quit :: _ => []
  | .query text :: rest => text :: queriesBeforeQuit rest
  | _ :: rest => queriesBeforeQuit rest

theorem handleCommand_inTransaction (s : Session) (command : Command) :
    (s.handleCommand parse command).backendConn.inTransaction =
      match command with
      | .query text => (transactionControl text).getD s.backendConn.inTransaction
      | _ => s.backendConn.inTransaction := by
  cases command with
  | query text =>
      simp only [handleCommand, handleQuery, forwardCommand, trackTransaction]
      cases transactionControl text <;> simp
  | initDb database =>
      by_cases empty : database = "" <;> simp [handleCommand, forwardCommand, empty]
  | _ => simp [handleCommand, forwardCommand]

@[simp]
theorem handleCommand_connectionID (s : Session) (command : Command) :
    (s.handleCommand parse command).backendConn.connectionID = s.backendConn.connectionID := by
  cases command with
  | query text =>
      simp only [handleCommand, handleQuery, forwardCommand, trackTransaction]
      cases transactionControl text <;> simp
  | initDb database =>
      by_cases empty : database = "" <;> simp [handleCommand, forwardCommand, empty]
  | _ => simp [handleCommand, forwardCommand]

theorem handleCommands_inTransaction (s : Session) (commands : List Command) :
    (s.handleCommands parse commands).backendConn.inTransaction =
      ((queriesBeforeQuit commands).filterMap transactionControl).getLast?.getD
        s.backendConn.inTransaction := by
  induction commands generalizing s with
  | nil => rfl
  | cons command rest inductionHypothesis =>
      cases command with
      | quit => rfl
      | query text =>
          simp only [handleCommands, inductionHypothesis, handleCommand_inTransaction,
            queriesBeforeQuit, List.filterMap_cons]
          cases transactionControl text <;> simp [List.getLast?_cons]
      | _ => simp [handleCommands, inductionHypothesis, handleCommand_inTransaction,
          queriesBeforeQuit]

end Session

namespace BackendPool

theorem release_of_inTransaction (pool : BackendPool) {conn : BackendConn}
    (inTransaction : conn.inTransaction = true) :
    (pool.release conn).connections = pool.connections := by
  simp [release, inTransaction]

end BackendPool

namespace Session

section

variable (parse : String → Option Statement) [Keywords]

/-- `Release` closes the connection exactly when the last transaction statement began one. -/
theorem release_closes_open_transaction {pool acquiredPool : BackendPool} {now : Int}
    {healthy dialSucceeds : Bool} {conn : BackendConn}
    (acquired : pool.acquire now healthy dialSucceeds = (acquiredPool, .ok conn))
    (config : Config) (commands : List Command) (releasePool : BackendPool) :
    let final := (Session.new config conn).handleCommands parse commands
    (final.backendConn.inTransaction = true ↔
        ((queriesBeforeQuit commands).filterMap transactionControl).getLast? = some true) ∧
      (final.backendConn.inTransaction = true →
        (final.releaseBackendConnection releasePool).connections = releasePool.connections) := by
  intro final
  have flag : final.backendConn.inTransaction =
      ((queriesBeforeQuit commands).filterMap transactionControl).getLast?.getD false := by
    rw [handleCommands_inTransaction]
    simp [Session.new, BackendPool.acquire_inTransaction acquired]
  refine ⟨?_, fun inTransaction => BackendPool.release_of_inTransaction _ inTransaction⟩
  rw [flag]
  cases (((queriesBeforeQuit commands).filterMap transactionControl).getLast?) <;> simp

/-- After `BEGIN;` the connection goes back to the pool with its transaction open. -/
theorem begin_with_semicolon_is_pooled :
    ∃ final, (Session.new ⟨⟨1000, 4, "BANKERS_ROUND"⟩, ⟨1000, 3⟩, GoMap.empty⟩
        (BackendConn.new 1)).handleCommands (fun _ => some .other) [.query "BEGIN;", .quit] =
        final ∧
      final.backendConn.inTransaction = false ∧
      ((final.releaseBackendConnection (BackendPool.new 1 0)).connections.map
        BackendConn.connectionID) = [1] :=
  ⟨_, rfl, rfl, rfl⟩

end

attribute [local instance] someKeywords in
theorem release_closes_transaction_begun_with_begin :
    (BackendPool.new 1 0).acquire 0 true true =
        (((BackendPool.new 1 0).acquire 0 true true).1, .ok (BackendConn.new 1)) ∧
      let final := (Session.new ⟨⟨1000, 4, "BANKERS_ROUND"⟩, ⟨1000, 3⟩, GoMap.empty⟩
        (BackendConn.new 1)).handleCommands (fun _ => some .other) [.query "begin"]
      (final.backendConn.inTransaction = true ↔
          ((queriesBeforeQuit [.query "begin"]).filterMap transactionControl).getLast? =
            some true) ∧
        (final.backendConn.inTransaction = true →
          (final.releaseBackendConnection (BackendPool.new 1 0)).connections =
            (BackendPool.new 1 0).connections) :=
  have acquired : (BackendPool.new 1 0).acquire 0 true true =
      (((BackendPool.new 1 0).acquire 0 true true).1, .ok (BackendConn.new 1)) := rfl
  ⟨acquired, release_closes_open_transaction (fun _ => some .other) acquired _ _ _⟩

end Session

end TransisiDB.Proxy
