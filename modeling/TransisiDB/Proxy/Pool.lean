import TransisiDB.Proxy.CircuitBreaker

set_option autoImplicit false

/-!
# Backend connections and their pool

`BackendConn` and `BackendPool` of `internal/proxy/listener.go`.

A connection is its bookkeeping plus `packetsExchanged`, the number of packets read or
written on its socket since it was dialled.  Timestamps are not modelled; `IsHealthy`
probes the socket, so its answer is an argument of `acquire`, as is the outcome of dialling.

The idle channel is a buffered Go channel; `BackendPool` carries its capacity bound and the
fact that `Release` resets every connection it queues as fields, so no pool violates them.
-/

namespace TransisiDB.Proxy

structure BackendConn where
  connectionID : Nat
  inTransaction : Bool
  database : String
  packetsExchanged : Nat
  deriving DecidableEq, Repr

namespace BackendConn

/-- `NewBackendConn` on a freshly dialled socket. -/
def new (connID : Nat) : BackendConn :=
  ⟨connID, false, "", 0⟩

def setInTransaction (conn : BackendConn) (inTx : Bool) : BackendConn :=
  { conn with inTransaction := inTx }

def setDatabase (conn : BackendConn) (db : String) : BackendConn :=
  { conn with database := db }

/-- `Reset`: clear the transaction flag and the database; it never fails. -/
def reset (conn : BackendConn) : BackendConn :=
  { conn with inTransaction := false, database := "" }

/-- `packets` packets read from or written to the socket. -/
def exchange (conn : BackendConn) (packets : Nat) : BackendConn :=
  { conn with packetsExchanged := conn.packetsExchanged + packets }

@[simp] theorem setInTransaction_inTransaction (conn : BackendConn) (inTx : Bool) :
    (conn.setInTransaction inTx).inTransaction = inTx := rfl

@[simp] theorem setDatabase_inTransaction (conn : BackendConn) (db : String) :
    (conn.setDatabase db).inTransaction = conn.inTransaction := rfl

@[simp] theorem exchange_inTransaction (conn : BackendConn) (packets : Nat) :
    (conn.exchange packets).inTransaction = conn.inTransaction := rfl

@[simp] theorem reset_inTransaction (conn : BackendConn) : conn.reset.inTransaction = false :=
  rfl

@[simp] theorem setInTransaction_connectionID (conn : BackendConn) (inTx : Bool) :
    (conn.setInTransaction inTx).connectionID = conn.connectionID := rfl

@[simp] theorem setDatabase_connectionID (conn : BackendConn) (db : String) :
    (conn.setDatabase db).connectionID = conn.connectionID := rfl

@[simp] theorem exchange_connectionID (conn : BackendConn) (packets : Nat) :
    (conn.exchange packets).connectionID = conn.connectionID := rfl

@[simp] theorem reset_connectionID (conn : BackendConn) :
    conn.reset.connectionID = conn.connectionID := rfl

@[simp] theorem reset_database (conn : BackendConn) : conn.reset.database = "" := rfl

@[simp] theorem reset_packetsExchanged (conn : BackendConn) :
    conn.reset.packetsExchanged = conn.packetsExchanged := rfl

end BackendConn

/-- `BackendPool`: the idle channel (oldest first), the counter, the closed flag, the breaker. -/
structure BackendPool where
  connections : List BackendConn
  capacity : Nat
  connCounter : Nat
  closed : Bool
  circuitBreaker : CircuitBreaker
  connections_length_le : connections.length ≤ capacity
  connections_reset : ∀ conn ∈ connections, conn.inTransaction = false ∧ conn.database = ""

/-- What `Acquire` hands back. -/
inductive AcquireResult where
  | ok (conn : BackendConn)
  | error (message : String)
  deriving DecidableEq, Repr

namespace BackendPool

/-- `NewBackendPool` with the default circuit breaker. -/
def new (poolSize : Nat) (now : Int) : BackendPool :=
  ⟨[], poolSize, 0, false, CircuitBreaker.new ⟨5, 30000000000, 3⟩ now, Nat.zero_le _,
    fun _ member => absurd member (List.not_mem_nil _)⟩

/-- `createConnection`: dial through the circuit breaker. -/
def createConnection (pool : BackendPool) (now : Int) (dialSucceeds : Bool) :
    BackendPool × AcquireResult :=
  let (breaker, admitted) := pool.circuitBreaker.beforeRequest now
  if !admitted then
    ({ pool with circuitBreaker := breaker },
      .error "backend unavailable (circuit breaker open): circuit breaker is open")
  else
    let pool := { pool with circuitBreaker := breaker.afterRequest dialSucceeds now }
    if !dialSucceeds then (pool, .error "failed to connect to backend")
    else
      ({ pool with connCounter := pool.connCounter + 1 },
        .ok (BackendConn.new (pool.connCounter + 1)))

/-- The idle channel after one receive. -/
def dequeue (pool : BackendPool) : BackendPool :=
  { pool with
    connections := pool.connections.tail
    connections_length_le := by
      rw [List.length_tail]; exact Nat.le_trans (Nat.sub_le _ _) pool.connections_length_le
    connections_reset := fun conn member =>
      pool.connections_reset conn (List.mem_of_mem_tail member) }

/-- `Acquire`: an idle connection that passes `IsHealthy`, or a new one. -/
def acquire (pool : BackendPool) (now : Int) (healthy dialSucceeds : Bool) :
    BackendPool × AcquireResult :=
  if pool.closed then (pool, .error "pool is closed")
  else
    match pool.connections with
    | conn :: _ =>
        if healthy then (pool.dequeue, .ok conn)
        else pool.dequeue.createConnection now dialSucceeds
    | [] => pool.createConnection now dialSucceeds

/-- The idle channel after a send that found room. -/
def enqueue (pool : BackendPool) (conn : BackendConn)
    (room : pool.connections.length < pool.capacity) : BackendPool :=
  { pool with
    connections := pool.connections ++ [conn.reset]
    connections_length_le := by simpa using room
    connections_reset := fun other member => by
      rcases List.mem_append.mp member with idle | queued
      · exact pool.connections_reset other idle
      · rw [List.mem_singleton.mp queued]; exact ⟨rfl, rfl⟩ }

/-- `Release`: close the connection, or reset it and queue it. -/
def release (pool : BackendPool) (conn : BackendConn) : BackendPool :=
  if pool.closed then pool
  else if conn.inTransaction then pool
  else if room : pool.connections.length < pool.capacity then pool.enqueue conn room
  else pool

theorem createConnection_cases (pool : BackendPool) (now : Int) (dialSucceeds : Bool) :
    let created := pool.createConnection now dialSucceeds
    created.1.connections = pool.connections ∧ created.1.capacity = pool.capacity ∧
      ((created.1.connCounter = pool.connCounter + 1 ∧
          created.2 = .ok (BackendConn.new created.1.connCounter)) ∨
        (created.1.connCounter = pool.connCounter ∧ ∃ message, created.2 = .error message)) := by
  unfold createConnection
  generalize pool.circuitBreaker.beforeRequest now = decision
  obtain ⟨breaker, admitted⟩ := decision
  cases admitted <;> cases dialSucceeds <;> simp

theorem acquire_cases (pool : BackendPool) (now : Int) (healthy dialSucceeds : Bool) :
    let acquired := pool.acquire now healthy dialSucceeds
    acquired.1.capacity = pool.capacity ∧
      ((∃ conn, pool.connections = conn :: acquired.1.connections ∧
          acquired.1.connCounter = pool.connCounter ∧ acquired.2 = .ok conn) ∨
        ((acquired.1.connections = pool.connections ∨
            acquired.1.connections = pool.connections.tail) ∧
          ((acquired.1.connCounter = pool.connCounter + 1 ∧
              acquired.2 = .ok (BackendConn.new acquired.1.connCounter)) ∨
            (acquired.1.connCounter = pool.connCounter ∧
              ∃ message, acquired.2 = .error message)))) := by
  unfold acquire
  split
  · exact ⟨rfl, .inr ⟨.inl rfl, .inr ⟨rfl, _, rfl⟩⟩⟩
  · split
    · rename_i conn _ queued
      split
      · exact ⟨rfl, .inl ⟨conn, by simp [dequeue, queued], rfl, rfl⟩⟩
      · obtain ⟨connections, capacity, dialled⟩ :=
          createConnection_cases pool.dequeue now dialSucceeds
        exact ⟨capacity, .inr ⟨.inr connections, dialled⟩⟩
    · obtain ⟨connections, capacity, dialled⟩ := createConnection_cases pool now dialSucceeds
      exact ⟨capacity, .inr ⟨.inl connections, dialled⟩⟩

theorem release_cases (pool : BackendPool) (conn : BackendConn) :
    (pool.release conn).connCounter = pool.connCounter ∧
      (pool.release conn).capacity = pool.capacity ∧
      ((pool.release conn).connections = pool.connections ++ [conn.reset] ∨
        (pool.release conn).connections = pool.connections) := by
  unfold release
  split_ifs <;> simp [enqueue]

theorem createConnection_ok {pool next : BackendPool} {now : Int} {dialSucceeds : Bool}
    {conn : BackendConn} (created : pool.createConnection now dialSucceeds = (next, .ok conn)) :
    conn = BackendConn.new (pool.connCounter + 1) := by
  unfold createConnection at created
  generalize pool.circuitBreaker.beforeRequest now = decision at created
  obtain ⟨breaker, admitted⟩ := decision
  cases admitted <;> cases dialSucceeds <;> simp at created
  exact created.2.symm

theorem acquire_inTransaction {pool next : BackendPool} {now : Int} {healthy dialSucceeds : Bool}
    {conn : BackendConn} (acquired : pool.acquire now healthy dialSucceeds = (next, .ok conn)) :
    conn.inTransaction = false := by
  unfold acquire at acquired
  split at acquired
  · cases acquired
  · split at acquired
    · rename_i idle _ queued
      split at acquired
      · cases acquired
        exact (pool.connections_reset conn (queued ▸ List.mem_cons_self _ _)).1
      · rw [createConnection_ok acquired]; rfl
    · rw [createConnection_ok acquired]; rfl

end BackendPool

end TransisiDB.Proxy
