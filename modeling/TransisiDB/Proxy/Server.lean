import TransisiDB.Proxy.Ownership
import TransisiDB.Proxy.Session

set_option autoImplicit false

/-!
# The proxy server: client sessions sharing one backend pool

`Server.handleConnection` runs `Session.Handle` for every accepted client, all on the one
`BackendPool` of the server.  A run of the server is an interleaving of the steps of any
number of such sessions: the `Acquire` that starts `Handle`, the relay of the connection
phase (steps 2 to 4 of `Handle`: server greeting, authentication response, auth loop), each
command of the command loop, and the end of the session (`COM_QUIT`, or an error), where the
deferred `releaseBackendConnection` hands the connection back.

`handedOut` is a record kept for the proofs: every connection `Acquire` handed to `Handle`,
as it was when handed out.
-/

namespace TransisiDB.Proxy

open TransisiDB.Sql

/-- A session inside `Handle`, `authenticated` once its connection phase has been relayed. -/
structure Client where
  session : Session
  authenticated : Bool

/-- One step of one session's `Handle`. -/
inductive ServerEvent where
  | connect (client : Nat) (now : Int) (healthy dialSucceeds : Bool)
  | handshake (client : Nat) (packets : Nat) (authenticated : Bool)
  | command (client : Nat) (command : Command)
  | disconnect (client : Nat)

/-- The id of the backend connection a session holds. -/
def Client.connectionID (c : Client) : Nat :=
  c.session.backendConn.connectionID

/-- `Server`: the configuration, the backend pool and the sessions being handled. -/
structure Server where
  config : Config
  backendPool : BackendPool
  clients : Nat → Option Client
  handedOut : List BackendConn

namespace Server

/-- `NewServer` with a pool of `poolSize` idle slots, before any client. -/
def new (config : Config) (poolSize : Nat) (now : Int) : Server :=
  ⟨config, BackendPool.new poolSize now, fun _ => none, []⟩

/-- Replace one client's entry. -/
def update (clients : Nat → Option Client) (client : Nat) (entry : Option Client) :
    Nat → Option Client :=
  fun other => if other = client then entry else clients other

/-- `Handle` returns and its deferred `releaseBackendConnection` runs. -/
def finish (server : Server) (client : Nat) (s : Session) : Server :=
  { server with
    backendPool := s.releaseBackendConnection server.backendPool
    clients := update server.clients client none }

variable (parse : String → Option Statement) [Keywords]

/-- One step of the server; one that is not possible leaves it unchanged. -/
def step (server : Server) : ServerEvent → Server
  | .connect client now healthy dialSucceeds =>
      if (server.clients client).isSome then server
      else
        match server.backendPool.acquire now healthy dialSucceeds with
        | (backendPool, .ok conn) =>
            { server with
              backendPool
              clients := update server.clients client (some ⟨Session.new server.config conn, false⟩)
              handedOut := server.handedOut ++ [conn] }
        | (backendPool, .error _) => { server with backendPool }
  | .handshake client packets authenticated =>
      match server.clients client with
      | some ⟨s, false⟩ =>
          let s := { s with backendConn := s.backendConn.exchange packets }
          if authenticated then
            { server with clients := update server.clients client (some ⟨s, true⟩) }
          else server.finish client s
      | _ => server
  | .command client command =>
      match server.clients client, command with
      | some ⟨s, true⟩, .quit => server.finish client s
      | some ⟨s, true⟩, command =>
          { server with
            clients := update server.clients client (some ⟨s.handleCommand parse command, true⟩) }
      | _, _ => server
  | .disconnect client =>
      match server.clients client with
      | some ⟨s, _⟩ => server.finish client s
      | none => server

/-- A run of the server: its steps, in order. -/
def run (server : Server) (events : List ServerEvent) : Server :=
  events.foldl (step parse) server

/-! ## Who holds the backend connections -/

/-- The holders of the backend connections. -/
def ownership (server : Server) : Ownership :=
  ⟨server.backendPool.connections.map BackendConn.connectionID, server.backendPool.connCounter,
    fun client => (server.clients client).map Client.connectionID⟩

omit [Keywords] in
theorem ownership_held_update (server : Server) (client : Nat) (entry : Option Client) :
    (fun other => (update server.clients client entry other).map Client.connectionID) =
      Ownership.assign server.ownership.held client (entry.map Client.connectionID) := by
  funext other
  unfold update Ownership.assign
  split <;> rfl

omit [Keywords] in
theorem ownership_update_same {server : Server} {client : Nat} {c c' : Client}
    (held : server.clients client = some c) (same : c'.connectionID = c.connectionID) :
    { server with clients := update server.clients client (some c') }.ownership =
      server.ownership := by
  refine Ownership.ext rfl rfl (funext fun other => ?_)
  show (update server.clients client (some c') other).map Client.connectionID =
    (server.clients other).map Client.connectionID
  unfold update
  split
  · subst other
    simp [held, same]
  · rfl

omit [Keywords] in
theorem ownership_finish {server : Server} {client : Nat} {c : Client} (s : Session)
    (held : server.clients client = some c) (same : s.backendConn.connectionID = c.connectionID) :
    (server.finish client s).ownership = server.ownership.move (.giveBack client) ∨
      (server.finish client s).ownership = server.ownership.move (.close client) := by
  have heldID : server.ownership.held client = some c.connectionID := by simp [ownership, held]
  have released : (server.finish client s).ownership.held =
      Ownership.assign server.ownership.held client none := ownership_held_update _ _ _
  obtain ⟨counter, -, queued | closed⟩ := server.backendPool.release_cases s.backendConn
  · left
    simp only [Ownership.move, heldID]
    exact Ownership.ext
      (by simp [finish, ownership, Session.releaseBackendConnection, queued, same]) counter released
  · right
    exact Ownership.ext (by simp [finish, ownership, Session.releaseBackendConnection, closed,
      Ownership.move]) counter released

omit [Keywords] in
theorem finish_moves {server : Server} {client : Nat} {c : Client} (s : Session)
    (held : server.clients client = some c) (same : s.backendConn.connectionID = c.connectionID) :
    ∃ ms, (server.finish client s).ownership = server.ownership.moves ms :=
  (ownership_finish s held same).elim (fun moved => ⟨[.giveBack client], moved⟩)
    fun moved => ⟨[.close client], moved⟩

omit [Keywords] in
theorem ownership_connect_ok {server : Server} {client : Nat} {next : BackendPool}
    {conn : BackendConn} :
    { server with
      backendPool := next
      clients := update server.clients client (some ⟨Session.new server.config conn, false⟩)
      handedOut := server.handedOut ++ [conn] }.ownership =
      ⟨next.connections.map BackendConn.connectionID, next.connCounter,
        Ownership.assign server.ownership.held client (some conn.connectionID)⟩ :=
  Ownership.ext rfl rfl (ownership_held_update _ _ _)

theorem ownership_connect (server : Server) (client : Nat) (now : Int)
    (healthy dialSucceeds : Bool) :
    ∃ ms, (server.step parse (.connect client now healthy dialSucceeds)).ownership =
      server.ownership.moves ms := by
  simp only [step]
  split
  · exact ⟨[], rfl⟩
  · obtain ⟨-, cases⟩ := server.backendPool.acquire_cases now healthy dialSucceeds
    generalize server.backendPool.acquire now healthy dialSucceeds = acquired at cases ⊢
    obtain ⟨next, result⟩ := acquired
    dsimp only at cases
    rcases cases with
      ⟨conn, queued, counter, rfl⟩ | ⟨idle, ⟨counter, rfl⟩ | ⟨counter, message, rfl⟩⟩
    · refine ⟨[.lend client], ?_⟩
      have lent : server.ownership.idle =
          conn.connectionID :: next.connections.map BackendConn.connectionID := by
        simp [ownership, queued]
      simp only [ownership_connect_ok, Ownership.moves_cons, Ownership.moves_nil, Ownership.move,
        lent, counter]
      rfl
    · rcases idle with same | dropped
      · refine ⟨[.dial client], ?_⟩
        rw [ownership_connect_ok, same, counter]
        rfl
      · refine ⟨[.dropIdle, .dial client], ?_⟩
        rw [ownership_connect_ok, dropped, counter, List.map_tail]
        rfl
    · rcases idle with same | dropped
      · refine ⟨[], ?_⟩
        simp only [ownership, same, counter]
        rfl
      · refine ⟨[.dropIdle], ?_⟩
        simp only [ownership, dropped, counter, List.map_tail]
        rfl

theorem step_ownership (server : Server) (event : ServerEvent) :
    ∃ ms, (server.step parse event).ownership = server.ownership.moves ms := by
  cases event with
  | connect client now healthy dialSucceeds =>
      exact ownership_connect parse server client now healthy dialSucceeds
  | handshake client packets authenticated =>
      simp only [step]
      split
      · rename_i s held
        split
        · exact ⟨[], ownership_update_same held rfl⟩
        · exact finish_moves _ held rfl
      · exact ⟨[], rfl⟩
  | command client command =>
      simp only [step]
      split
      · rename_i s held
        exact finish_moves s held rfl
      · rename_i s held _
        exact ⟨[], ownership_update_same held (Session.handleCommand_connectionID parse s _)⟩
      · exact ⟨[], rfl⟩
  | disconnect client =>
      simp only [step]
      split
      · rename_i s _ held
        exact finish_moves s held rfl
      · exact ⟨[], rfl⟩

theorem run_ownership (server : Server) (events : List ServerEvent) :
    ∃ ms, (server.run parse events).ownership = server.ownership.moves ms := by
  induction events generalizing server with
  | nil => exact ⟨[], rfl⟩
  | cons event rest inductionHypothesis =>
      obtain ⟨ms, stepped⟩ := step_ownership parse server event
      obtain ⟨more, ran⟩ := inductionHypothesis (server.step parse event)
      exact ⟨ms ++ more, by rw [Ownership.moves_append, ← stepped]; exact ran⟩

omit [Keywords] in
theorem new_ownership_exclusive (config : Config) (poolSize : Nat) (now : Int) :
    (Server.new config poolSize now).ownership.Exclusive where
  idle_nodup := List.nodup_nil
  idle_dialled _ member := absurd member (List.not_mem_nil _)
  held_dialled _ _ holds := Option.noConfusion holds
  held_not_idle _ _ _ member := absurd member (List.not_mem_nil _)
  held_once _ _ _ holds := Option.noConfusion holds

theorem run_ownership_exclusive (config : Config) (poolSize : Nat) (now : Int)
    (events : List ServerEvent) :
    ((Server.new config poolSize now).run parse events).ownership.Exclusive := by
  obtain ⟨ms, ran⟩ := run_ownership parse (Server.new config poolSize now) events
  rw [ran]
  exact (new_ownership_exclusive config poolSize now).moves ms

/-- No two sessions hold one backend connection, and none a session holds is idle. -/
theorem run_sessions_hold_distinct_connections (config : Config) (poolSize : Nat) (now : Int)
    (events : List ServerEvent) :
    let server := (Server.new config poolSize now).run parse events
    (∀ client other c d, server.clients client = some c → server.clients other = some d →
        c.connectionID = d.connectionID → client = other) ∧
      ∀ client c, server.clients client = some c →
        ∀ conn ∈ server.backendPool.connections, conn.connectionID ≠ c.connectionID := by
  intro server
  have exclusive : server.ownership.Exclusive :=
    run_ownership_exclusive parse config poolSize now events
  have holds : ∀ client c, server.clients client = some c →
      server.ownership.held client = some c.connectionID := fun _ _ held => by
    simp only [ownership, held, Option.map_some']
  refine ⟨fun client other c d held otherHeld same => ?_, fun client c held conn member same => ?_⟩
  · exact exclusive.held_once client other c.connectionID (holds client c held)
      (same ▸ holds other d otherHeld)
  · exact exclusive.held_not_idle client c.connectionID (holds client c held)
      (List.mem_map.mpr ⟨conn, member, same⟩)

/-! ## What `Handle` receives -/

theorem step_capacity (server : Server) (event : ServerEvent) :
    (server.step parse event).backendPool.capacity = server.backendPool.capacity := by
  have finished : ∀ client s, (server.finish client s).backendPool.capacity =
      server.backendPool.capacity := fun _ s =>
    (server.backendPool.release_cases s.backendConn).2.1
  cases event with
  | connect client now healthy dialSucceeds =>
      simp only [step]
      split
      · rfl
      · have capacity := (server.backendPool.acquire_cases now healthy dialSucceeds).1
        generalize server.backendPool.acquire now healthy dialSucceeds = acquired at capacity ⊢
        obtain ⟨next, result⟩ := acquired
        cases result <;> exact capacity
  | handshake client packets authenticated =>
      simp only [step]
      split
      · split
        · rfl
        · exact finished _ _
      · rfl
  | command client command =>
      simp only [step]
      split
      · exact finished _ _
      · rfl
      · rfl
  | disconnect client =>
      simp only [step]
      split
      · exact finished _ _
      · rfl

theorem step_handedOut (server : Server) (event : ServerEvent) :
    ∃ given, (server.step parse event).handedOut = server.handedOut ++ given ∧
      ∀ conn ∈ given,
        conn ∈ server.backendPool.connections ∨ conn = BackendConn.new conn.connectionID := by
  have unchanged : ∀ next : Server, next.handedOut = server.handedOut →
      ∃ given, next.handedOut = server.handedOut ++ given ∧ ∀ conn ∈ given,
        conn ∈ server.backendPool.connections ∨ conn = BackendConn.new conn.connectionID :=
    fun _ same => ⟨[], by rw [same, List.append_nil], fun _ member => absurd member
      (List.not_mem_nil _)⟩
  cases event with
  | connect client now healthy dialSucceeds =>
      simp only [step]
      split
      · exact unchanged _ rfl
      · obtain ⟨-, cases⟩ := server.backendPool.acquire_cases now healthy dialSucceeds
        generalize server.backendPool.acquire now healthy dialSucceeds = acquired at cases ⊢
        obtain ⟨next, result⟩ := acquired
        dsimp only at cases
        rcases cases with ⟨conn, queued, -, rfl⟩ | ⟨-, ⟨-, rfl⟩ | ⟨-, message, rfl⟩⟩
        · refine ⟨[conn], rfl, fun _ member => .inl ?_⟩
          rw [List.mem_singleton.mp member, queued]
          exact List.mem_cons_self _ _
        · exact ⟨[_], rfl, fun _ member => .inr (by rw [List.mem_singleton.mp member]; rfl)⟩
        · exact unchanged _ rfl
  | handshake client packets authenticated =>
      simp only [step]
      split
      · split <;> exact unchanged _ rfl
      · exact unchanged _ rfl
  | command client command =>
      simp only [step]
      split <;> exact unchanged _ rfl
  | disconnect client =>
      simp only [step]
      split <;> exact unchanged _ rfl

theorem run_handedOut_new {server : Server} (noSlot : server.backendPool.capacity = 0)
    (fresh : ∀ conn ∈ server.handedOut, conn = BackendConn.new conn.connectionID)
    (events : List ServerEvent) :
    ∀ conn ∈ (server.run parse events).handedOut, conn = BackendConn.new conn.connectionID := by
  induction events generalizing server with
  | nil => exact fresh
  | cons event rest inductionHypothesis =>
      refine inductionHypothesis ((step_capacity parse server event).trans noSlot) ?_
      obtain ⟨given, handed, dialled⟩ := step_handedOut parse server event
      have empty : server.backendPool.connections = [] := List.eq_nil_of_length_eq_zero
        (Nat.le_zero.mp (noSlot ▸ server.backendPool.connections_length_le))
      intro conn member
      rw [handed] at member
      rcases List.mem_append.mp member with old | new
      · exact fresh conn old
      · exact (dialled conn new).resolve_left (empty ▸ List.not_mem_nil conn)

/-- With `PoolSize` 0, every connection `Handle` receives is newly dialled. -/
theorem run_handedOut_new_of_poolSize_zero (config : Config) (now : Int)
    (events : List ServerEvent) :
    ∀ conn ∈ ((Server.new config 0 now).run parse events).handedOut,
      conn = BackendConn.new conn.connectionID :=
  run_handedOut_new parse rfl (fun _ member => absurd member (List.not_mem_nil _)) events

/-- A second session is handed the first one's authenticated connection. -/
theorem second_session_gets_authenticated_connection (config : Config) :
    ((Server.new config 1 0).run parse
        [.connect 1 0 true true, .handshake 1 3 true, .command 1 .quit,
          .connect 2 1 true true]).handedOut =
      [BackendConn.new 1, ⟨1, false, "", 3⟩] :=
  rfl

end Server

attribute [local instance] someKeywords in
theorem run_handedOut_new_of_poolSize_zero_reconnect :
    BackendConn.new 2 ∈ ((Server.new ⟨⟨1000, 4, "BANKERS_ROUND"⟩, ⟨1000, 3⟩, GoMap.empty⟩ 0 0).run
        (fun _ => none) [.connect 1 0 true true, .handshake 1 3 true, .command 1 .quit,
          .connect 2 1 true true]).handedOut ∧
      BackendConn.new 2 = BackendConn.new (BackendConn.new 2).connectionID := by
  refine ⟨?handed, Server.run_handedOut_new_of_poolSize_zero (fun _ => none) _ 0 _ _ ?handed⟩
  decide

end TransisiDB.Proxy
