import TransisiDB.Proxy.Ownership

set_option autoImplicit false

/-!
# The backend pool under concurrent goroutines

`BackendPool.Acquire`, `Release`, `cleanupStaleConnections` (run by `cleanupWorker`) and
`Close` of `internal/proxy/listener.go`, each goroutine stepped at the granularity of the
pool's shared operations: one critical section of `bp.mu`, or one operation on the buffered
channel `bp.connections`.  The work a goroutine then does on the connection alone
(`IsHealthy`, `IsInTransaction`, `Reset`, the staleness test, `conn.Close()`) belongs to the
step before it.

A connection is its id; `createConnection` numbers them from 1 under `bp.mu`, and
`closedConns` lists the connections whose `Close` has run.  Each session's goroutine
acquires one connection, uses it and releases it once.  What the environment decides
(`IsHealthy`, the dial, `IsInTransaction`, the staleness test, which case of the `select` of
`cleanupWorker` fires) is part of the step.  An unrecovered panic ends the program, so no
step follows it.

* `PoolRun.run_onePlace`: in every reachable state each dialled connection is in exactly one
  place: idle in the channel, held by one session, held by the cleanup, or closed.
* `PoolRun.run_exclusive`: read as the holders of `Ownership` (the cleanup's connections
  counted as idle), every reachable state is `Exclusive`.
* `PoolRun.send_on_closed_channel_after_close`: a `Release` or a cleanup that has passed its
  point of no return before `Close` sends on the closed channel.
-/

namespace TransisiDB.Proxy

/-- The unrecovered panics of the pool's goroutines. -/
inductive PoolPanic where
  | sendOnClosedChannel
  | nilDereference
  deriving DecidableEq, Repr

/-- Where a session is in `Acquire`, its use of the connection, and `Release`. -/
inductive SessionPc where
  | acquiring
  | receiving
  | dialling
  | holding (conn : Nat)
  | sending (conn : Nat)
  | finished
  deriving DecidableEq, Repr

/-- Where the goroutine of `cleanupWorker` is. -/
inductive CleanupPc where
  | waiting
  | draining (held : List Nat)
  | returning (held : List Nat)
  | exited
  deriving DecidableEq, Repr

/-- Where the one call of `Close` is. -/
inductive ClosePc where
  | idle
  | closingChannel
  | draining
  | waitingWorker
  | returned
  deriving DecidableEq, Repr

/-- One shared operation of one goroutine, with what the environment decides in it. -/
inductive PoolStep where
  | acquireCheck (session : Nat)
  | acquireReceive (session : Nat) (healthy : Bool)
  | dial (session : Nat) (succeeds : Bool)
  | releaseCheck (session : Nat)
  | releaseSend (session : Nat) (inTransaction : Bool)
  | cleanupTick
  | cleanupTimeout
  | cleanupReceive (stale : Bool)
  | cleanupSend
  | closeLock
  | closeChannel
  | closeReceive
  | closeWait

/-- The pool and its goroutines. -/
structure PoolRun where
  closed : Bool
  connections : List Nat
  capacity : Nat
  channelClosed : Bool
  connCounter : Nat
  sessions : Nat → SessionPc
  cleanup : CleanupPc
  closer : ClosePc
  closedConns : List Nat
  panicked : Option PoolPanic

/-- The connection a session's goroutine holds. -/
def SessionPc.conn? : SessionPc → Option Nat
  | .holding conn | .sending conn => some conn
  | _ => none

/-- The connections the cleanup holds. -/
def CleanupPc.held : CleanupPc → List Nat
  | .draining held | .returning held => held
  | _ => []

namespace PoolRun

/-- `NewBackendPool(cfg, capacity)` with its `cleanupWorker` started, before any session. -/
def new (capacity : Nat) : PoolRun :=
  ⟨false, [], capacity, false, 0, fun _ => .acquiring, .waiting, .idle, [], none⟩

variable (s : PoolRun)

/-- The session `k` moves to `pc`. -/
def setSession (k : Nat) (pc : SessionPc) : PoolRun :=
  { s with sessions := fun other => if other = k then pc else s.sessions other }

@[simp]
theorem setSession_connections (k : Nat) (pc : SessionPc) :
    (s.setSession k pc).connections = s.connections := rfl

@[simp]
theorem setSession_cleanup (k : Nat) (pc : SessionPc) : (s.setSession k pc).cleanup = s.cleanup :=
  rfl

@[simp]
theorem setSession_closer (k : Nat) (pc : SessionPc) : (s.setSession k pc).closer = s.closer :=
  rfl

@[simp]
theorem setSession_channelClosed (k : Nat) (pc : SessionPc) :
    (s.setSession k pc).channelClosed = s.channelClosed := rfl

def closeConn (conn : Nat) : PoolRun :=
  { s with closedConns := s.closedConns ++ [conn] }

/-- The program panics. -/
def panic (p : PoolPanic) : PoolRun :=
  { s with panicked := some p }

/-- The connections outside the sessions: idle, held by the cleanup, or closed. -/
def pooled : List Nat :=
  s.connections ++ s.cleanup.held ++ s.closedConns

/-- One step of the goroutine of session `k`. -/
def sessionStep (k : Nat) : PoolStep → Option PoolRun
  | .acquireCheck _ =>
      if s.sessions k = .acquiring then
        some (s.setSession k (if s.closed then .finished else .receiving))
      else none
  | .acquireReceive _ healthy =>
      if s.sessions k = .receiving then
        match s.connections with
        | conn :: rest =>
            some (if healthy then { s with connections := rest }.setSession k (.holding conn)
              else ({ s with connections := rest }.closeConn conn).setSession k .dialling)
        | [] => some (if s.channelClosed then s.panic .nilDereference
            else s.setSession k .dialling)
      else none
  | .dial _ succeeds =>
      if s.sessions k = .dialling then
        some (if succeeds then
            { s with connCounter := s.connCounter + 1 }.setSession k (.holding (s.connCounter + 1))
          else s.setSession k .finished)
      else none
  | .releaseCheck _ =>
      match s.sessions k with
      | .holding conn =>
          some (if s.closed then (s.closeConn conn).setSession k .finished
            else s.setSession k (.sending conn))
      | _ => none
  | .releaseSend _ inTransaction =>
      match s.sessions k with
      | .sending conn =>
          some (if inTransaction then (s.closeConn conn).setSession k .finished
            else if s.channelClosed then s.panic .sendOnClosedChannel
            else if s.connections.length < s.capacity then
              { s with connections := s.connections ++ [conn] }.setSession k .finished
            else (s.closeConn conn).setSession k .finished)
      | _ => none
  | _ => none

/-- One step of the goroutine of `cleanupWorker`. -/
def cleanupStep : PoolStep → Option PoolRun
  | .cleanupTick => if s.cleanup = .waiting then some { s with cleanup := .draining [] } else none
  | .cleanupTimeout =>
      if s.cleanup = .waiting then
        some { s with cleanup := if s.closed then .exited else .waiting }
      else none
  | .cleanupReceive stale =>
      match s.cleanup, s.connections with
      | .draining held, conn :: rest =>
          some (if stale then { s with connections := rest }.closeConn conn
            else { s with connections := rest, cleanup := .draining (held ++ [conn]) })
      | .draining held, [] =>
          some (if s.channelClosed then s else { s with cleanup := .returning held })
      | _, _ => none
  | .cleanupSend =>
      match s.cleanup with
      | .returning (conn :: rest) =>
          some (if s.channelClosed then s.panic .sendOnClosedChannel
            else if s.connections.length < s.capacity then
              { s with connections := s.connections ++ [conn], cleanup := .returning rest }
            else { s.closeConn conn with cleanup := .returning rest })
      | .returning [] => some { s with cleanup := .waiting }
      | _ => none
  | _ => none

/-- One step of the call of `Close`. -/
def closeStep : PoolStep → Option PoolRun
  | .closeLock =>
      if s.closer = .idle then
        some (if s.closed then { s with closer := .returned }
          else { s with closed := true, closer := .closingChannel })
      else none
  | .closeChannel =>
      if s.closer = .closingChannel then some { s with channelClosed := true, closer := .draining }
      else none
  | .closeReceive =>
      if s.closer = .draining then
        match s.connections with
        | conn :: rest => some ({ s with connections := rest }.closeConn conn)
        | [] => some { s with closer := .waitingWorker }
      else none
  | .closeWait =>
      if s.closer = .waitingWorker ∧ s.cleanup = .exited then some { s with closer := .returned }
      else none
  | _ => none

/-- One step of the program; `none` if the goroutine cannot take it, or after a panic. -/
def step (action : PoolStep) : Option PoolRun :=
  if s.panicked.isSome then none
  else match action with
    | .acquireCheck k | .acquireReceive k _ | .dial k _ | .releaseCheck k | .releaseSend k _ =>
        s.sessionStep k action
    | .cleanupTick | .cleanupTimeout | .cleanupReceive _ | .cleanupSend => s.cleanupStep action
    | .closeLock | .closeChannel | .closeReceive | .closeWait => s.closeStep action

/-- The program after a sequence of steps; `none` if one of them cannot be taken. -/
def run (current : PoolRun) : List PoolStep → Option PoolRun
  | [] => some current
  | action :: rest => (current.step action).bind fun next => next.run rest

/-- A `Release` or the cleanup can send on the channel `Close` closed. -/
theorem send_on_closed_channel_after_close :
    ((new 1).run [.acquireCheck 0, .acquireReceive 0 true, .dial 0 true, .releaseCheck 0,
        .closeLock, .closeChannel, .releaseSend 0 false]).map (·.panicked) =
      some (some .sendOnClosedChannel) ∧
    ((new 1).run [.acquireCheck 0, .acquireReceive 0 true, .dial 0 true, .releaseCheck 0,
        .releaseSend 0 false, .cleanupTick, .cleanupReceive false, .cleanupReceive false,
        .closeLock, .closeChannel, .cleanupSend]).map (·.panicked) =
      some (some .sendOnClosedChannel) := by
  decide

/-! ## Each connection in one place -/

/-- Each dialled connection is in exactly one place, and no other connection is anywhere. -/
structure OnePlace : Prop where
  pooled_nodup : s.pooled.Nodup
  pooled_dialled : ∀ conn ∈ s.pooled, 1 ≤ conn ∧ conn ≤ s.connCounter
  session_dialled : ∀ k conn, (s.sessions k).conn? = some conn → 1 ≤ conn ∧ conn ≤ s.connCounter
  session_not_pooled : ∀ k conn, (s.sessions k).conn? = some conn → conn ∉ s.pooled
  session_once : ∀ k other conn, (s.sessions k).conn? = some conn →
    (s.sessions other).conn? = some conn → k = other
  dialled_placed : ∀ conn, 1 ≤ conn → conn ≤ s.connCounter →
    conn ∈ s.pooled ∨ ∃ k, (s.sessions k).conn? = some conn

theorem new_onePlace (capacity : Nat) : (new capacity).OnePlace where
  pooled_nodup := List.nodup_nil
  pooled_dialled _ member := absurd member (List.not_mem_nil _)
  session_dialled _ _ held := Option.noConfusion held
  session_not_pooled _ _ held := Option.noConfusion held
  session_once _ _ _ held := Option.noConfusion held
  dialled_placed _ positive counted := absurd (Nat.le_trans positive counted) (Nat.not_succ_le_zero 0)

/-- `next` only moves pooled connections between the channel, the cleanup and the closed. -/
structure Reshuffles (next : PoolRun) : Prop where
  pooled : next.pooled.Perm s.pooled
  counter : next.connCounter = s.connCounter
  sessions : next.sessions = s.sessions

namespace OnePlace

variable {s} {next : PoolRun}

theorem shuffle (one : s.OnePlace) (pooled : next.pooled.Perm s.pooled)
    (counter : next.connCounter = s.connCounter)
    (sessions : ∀ k, (next.sessions k).conn? = (s.sessions k).conn?) : next.OnePlace where
  pooled_nodup := pooled.nodup_iff.mpr one.pooled_nodup
  pooled_dialled conn member := counter ▸ one.pooled_dialled conn (pooled.subset member)
  session_dialled k conn held := counter ▸ one.session_dialled k conn ((sessions k).symm.trans held)
  session_not_pooled k conn held member :=
    one.session_not_pooled k conn ((sessions k).symm.trans held) (pooled.subset member)
  session_once k other conn held otherHeld :=
    one.session_once k other conn ((sessions k).symm.trans held)
      ((sessions other).symm.trans otherHeld)
  dialled_placed conn positive counted :=
    (one.dialled_placed conn positive (counter ▸ counted)).imp (fun member => pooled.symm.subset member)
      fun ⟨k, held⟩ => ⟨k, (sessions k).trans held⟩

theorem reshuffle (one : s.OnePlace) (moved : s.Reshuffles next) : next.OnePlace :=
  one.shuffle moved.pooled moved.counter fun k => by rw [moved.sessions]

theorem giveUp (one : s.OnePlace) {k conn : Nat} (holds : (s.sessions k).conn? = some conn)
    (pooled : next.pooled.Perm (conn :: s.pooled)) (counter : next.connCounter = s.connCounter)
    (released : (next.sessions k).conn? = none)
    (others : ∀ other, other ≠ k → (next.sessions other).conn? = (s.sessions other).conn?) :
    next.OnePlace where
  pooled_nodup := pooled.nodup_iff.mpr
    (List.nodup_cons.mpr ⟨one.session_not_pooled k conn holds, one.pooled_nodup⟩)
  pooled_dialled other member := by
    rw [counter]
    rcases List.mem_cons.mp (pooled.subset member) with rfl | member
    · exact one.session_dialled k other holds
    · exact one.pooled_dialled other member
  session_dialled other otherConn held := by
    have different : other ≠ k := fun same => by rw [same, released] at held; cases held
    rw [counter]
    exact one.session_dialled other otherConn ((others other different).symm.trans held)
  session_not_pooled other otherConn held member := by
    have different : other ≠ k := fun same => by rw [same, released] at held; cases held
    have before := (others other different).symm.trans held
    rcases List.mem_cons.mp (pooled.subset member) with rfl | member
    · exact different (one.session_once other k otherConn before holds)
    · exact one.session_not_pooled other otherConn before member
  session_once first second shared held otherHeld := by
    have firstOther : first ≠ k := fun same => by rw [same, released] at held; cases held
    have secondOther : second ≠ k := fun same => by rw [same, released] at otherHeld; cases otherHeld
    exact one.session_once first second shared ((others first firstOther).symm.trans held)
      ((others second secondOther).symm.trans otherHeld)
  dialled_placed other positive counted := by
    rcases one.dialled_placed other positive (counter ▸ counted) with member | ⟨holder, held⟩
    · exact .inl (pooled.symm.subset (List.mem_cons_of_mem _ member))
    · by_cases same : holder = k
      · rw [same, holds, Option.some.injEq] at held
        exact .inl (pooled.symm.subset (held ▸ List.mem_cons_self _ _))
      · exact .inr ⟨holder, (others holder same).trans held⟩

theorem take (one : s.OnePlace) {k conn : Nat} (free : (s.sessions k).conn? = none)
    (pooled : s.pooled.Perm (conn :: next.pooled)) (counter : next.connCounter = s.connCounter)
    (takes : (next.sessions k).conn? = some conn)
    (others : ∀ other, other ≠ k → (next.sessions other).conn? = (s.sessions other).conn?) :
    next.OnePlace := by
  have nodup := pooled.nodup_iff.mp one.pooled_nodup
  have taken : conn ∈ s.pooled := pooled.symm.subset (List.mem_cons_self _ _)
  have shrinks : ∀ other ∈ next.pooled, other ∈ s.pooled :=
    fun other member => pooled.symm.subset (List.mem_cons_of_mem _ member)
  have heldBefore : ∀ other otherConn, other ≠ k → (next.sessions other).conn? = some otherConn →
      (s.sessions other).conn? = some otherConn :=
    fun other _ different held => (others other different).symm.trans held
  refine ⟨(List.nodup_cons.mp nodup).2, fun other member => counter ▸ one.pooled_dialled other
    (shrinks other member), fun other otherConn held => ?_, fun other otherConn held member => ?_,
    fun first second shared held otherHeld => ?_, fun other positive counted => ?_⟩
  · rw [counter]
    by_cases same : other = k
    · rw [same, takes, Option.some.injEq] at held
      exact held ▸ one.pooled_dialled conn taken
    · exact one.session_dialled other otherConn (heldBefore other otherConn same held)
  · by_cases same : other = k
    · rw [same, takes, Option.some.injEq] at held
      exact (List.nodup_cons.mp nodup).1 (held ▸ member)
    · exact one.session_not_pooled other otherConn (heldBefore other otherConn same held)
        (shrinks otherConn member)
  · by_cases firstSame : first = k <;> by_cases secondSame : second = k
    · rw [firstSame, secondSame]
    · rw [firstSame, takes, Option.some.injEq] at held
      exact absurd (held ▸ taken)
        (one.session_not_pooled second shared (heldBefore second shared secondSame otherHeld))
    · rw [secondSame, takes, Option.some.injEq] at otherHeld
      exact absurd (otherHeld ▸ taken)
        (one.session_not_pooled first shared (heldBefore first shared firstSame held))
    · exact one.session_once first second shared (heldBefore first shared firstSame held)
        (heldBefore second shared secondSame otherHeld)
  · rcases one.dialled_placed other positive (counter ▸ counted) with member | ⟨holder, held⟩
    · rcases List.mem_cons.mp (pooled.subset member) with rfl | member
      · exact .inr ⟨k, takes⟩
      · exact .inl member
    · have different : holder ≠ k := fun same => by rw [same, free] at held; cases held
      exact .inr ⟨holder, (others holder different).trans held⟩

theorem dial (one : s.OnePlace) {k : Nat} (free : (s.sessions k).conn? = none)
    (pooled : next.pooled = s.pooled) (counter : next.connCounter = s.connCounter + 1)
    (takes : (next.sessions k).conn? = some (s.connCounter + 1))
    (others : ∀ other, other ≠ k → (next.sessions other).conn? = (s.sessions other).conn?) :
    next.OnePlace := by
  have heldBefore : ∀ other otherConn, other ≠ k → (next.sessions other).conn? = some otherConn →
      (s.sessions other).conn? = some otherConn :=
    fun other _ different held => (others other different).symm.trans held
  have fresh : s.connCounter + 1 ∉ s.pooled := fun member =>
    Nat.not_succ_le_self _ (one.pooled_dialled _ member).2
  refine ⟨pooled ▸ one.pooled_nodup, fun other member => ?_, fun other otherConn held => ?_,
    fun other otherConn held member => ?_, fun first second shared held otherHeld => ?_,
    fun other positive counted => ?_⟩
  · have := one.pooled_dialled other (pooled ▸ member)
    omega
  · by_cases same : other = k
    · rw [same, takes, Option.some.injEq] at held
      omega
    · have := one.session_dialled other otherConn (heldBefore other otherConn same held)
      omega
  · rw [pooled] at member
    by_cases same : other = k
    · rw [same, takes, Option.some.injEq] at held
      exact fresh (held ▸ member)
    · exact one.session_not_pooled other otherConn (heldBefore other otherConn same held) member
  · by_cases firstSame : first = k <;> by_cases secondSame : second = k
    · rw [firstSame, secondSame]
    · rw [firstSame, takes, Option.some.injEq] at held
      have := one.session_dialled second shared (heldBefore second shared secondSame otherHeld)
      omega
    · rw [secondSame, takes, Option.some.injEq] at otherHeld
      have := one.session_dialled first shared (heldBefore first shared firstSame held)
      omega
    · exact one.session_once first second shared (heldBefore first shared firstSame held)
        (heldBefore second shared secondSame otherHeld)
  · by_cases newest : other = s.connCounter + 1
    · exact .inr ⟨k, newest ▸ takes⟩
    · rcases one.dialled_placed other positive (by omega) with member | ⟨holder, held⟩
      · exact .inl (pooled ▸ member)
      · have different : holder ≠ k := fun same => by rw [same, free] at held; cases held
        exact .inr ⟨holder, (others holder different).trans held⟩

end OnePlace

/-! ### What each operation does to the places -/

theorem conn?_setSession (k other : Nat) (pc : SessionPc) :
    ((s.setSession k pc).sessions other).conn? =
      if other = k then pc.conn? else (s.sessions other).conn? := by
  simp only [setSession]
  split <;> rfl

theorem perm_move_to_end (front middle back : List Nat) (conn : Nat) :
    (front ++ middle ++ (back ++ [conn])).Perm (conn :: front ++ middle ++ back) := by
  simpa only [List.append_assoc, List.cons_append] using
    List.perm_append_singleton conn (front ++ middle ++ back)

theorem perm_move_to_middle_end (front middle back : List Nat) (conn : Nat) :
    (front ++ (middle ++ [conn]) ++ back).Perm (conn :: front ++ middle ++ back) := by
  simpa only [List.append_assoc, List.cons_append, List.singleton_append] using
    @List.perm_middle _ conn (front ++ middle) back

namespace OnePlace

variable {s}

theorem setSession_same (one : s.OnePlace) {k : Nat} {pc : SessionPc}
    (same : pc.conn? = (s.sessions k).conn?) : (s.setSession k pc).OnePlace :=
  one.shuffle (List.Perm.refl _) rfl fun other => by
    rw [conn?_setSession]
    split
    · subst other; exact same
    · rfl

theorem closeSession (one : s.OnePlace) {k conn : Nat} (holds : (s.sessions k).conn? = some conn)
    {pc : SessionPc} (free : pc.conn? = none) : ((s.closeConn conn).setSession k pc).OnePlace :=
  have moved := perm_move_to_end s.connections s.cleanup.held s.closedConns conn
  one.giveUp holds (by simpa [pooled, closeConn] using moved) rfl
    (by rw [conn?_setSession, if_pos rfl, free])
    fun other different => by rw [conn?_setSession, if_neg different]; rfl

theorem panic (one : s.OnePlace) (p : PoolPanic) : (s.panic p).OnePlace :=
  one.shuffle (List.Perm.refl _) rfl fun _ => rfl

end OnePlace

theorem sessionStep_onePlace {s : PoolRun} (one : s.OnePlace) {k : Nat} {action : PoolStep}
    {next : PoolRun} (stepped : s.sessionStep k action = some next) : next.OnePlace := by
  cases action with
  | acquireCheck _ =>
      simp only [sessionStep] at stepped
      split at stepped
      · rename_i acquiring
        cases stepped
        exact one.setSession_same (by split <;> simp [acquiring, SessionPc.conn?])
      · cases stepped
  | acquireReceive _ healthy =>
      simp only [sessionStep] at stepped
      split at stepped
      · rename_i receiving
        have free : (s.sessions k).conn? = none := by rw [receiving]; rfl
        split at stepped
        · rename_i conn rest queued
          cases stepped
          split
          · refine one.take free ?_ rfl (by rw [conn?_setSession, if_pos rfl]; rfl)
              fun other different => by rw [conn?_setSession, if_neg different]
            simp [pooled, queued, setSession]
          · have evicted : s.Reshuffles ({ s with connections := rest }.closeConn conn) :=
              ⟨by simpa [pooled, queued, closeConn] using
                perm_move_to_end rest s.cleanup.held s.closedConns conn, rfl, rfl⟩
            exact (one.reshuffle evicted).setSession_same free.symm
        · cases stepped
          split
          · exact one.panic _
          · exact one.setSession_same free.symm
      · cases stepped
  | dial _ succeeds =>
      simp only [sessionStep] at stepped
      split at stepped
      · rename_i dialling
        have free : (s.sessions k).conn? = none := by rw [dialling]; rfl
        cases stepped
        split
        · exact one.dial free rfl rfl (by rw [conn?_setSession, if_pos rfl]; rfl)
            fun other different => by rw [conn?_setSession, if_neg different]
        · exact one.setSession_same free.symm
      · cases stepped
  | releaseCheck _ =>
      simp only [sessionStep] at stepped
      split at stepped
      · rename_i conn holding
        have holds : (s.sessions k).conn? = some conn := by rw [holding]; rfl
        cases stepped
        split
        · exact one.closeSession holds rfl
        · exact one.setSession_same holds.symm
      · cases stepped
  | releaseSend _ inTransaction =>
      simp only [sessionStep] at stepped
      split at stepped
      · rename_i conn sending
        have holds : (s.sessions k).conn? = some conn := by rw [sending]; rfl
        cases stepped
        split
        · exact one.closeSession holds rfl
        · split
          · exact one.panic _
          · split
            · exact one.giveUp holds (by simp [pooled, setSession]) rfl
                (by rw [conn?_setSession, if_pos rfl]; rfl)
                fun other different => by rw [conn?_setSession, if_neg different]
            · exact one.closeSession holds rfl
      · cases stepped
  | _ => simp [sessionStep] at stepped

theorem cleanupStep_reshuffles {s : PoolRun} {action : PoolStep} {next : PoolRun}
    (stepped : s.cleanupStep action = some next) : s.Reshuffles next := by
  cases action with
  | cleanupTick | cleanupTimeout =>
      simp only [cleanupStep] at stepped
      split at stepped
      · rename_i waiting
        cases stepped
        (try split) <;> exact ⟨by simp [pooled, waiting, CleanupPc.held], rfl, rfl⟩
      · cases stepped
  | cleanupReceive stale =>
      simp only [cleanupStep] at stepped
      split at stepped
      · rename_i held conn rest draining queued
        have front : s.pooled.Perm (conn :: rest ++ held ++ s.closedConns) := by
          simp [pooled, draining, queued, CleanupPc.held]
        cases stepped
        split
        · refine ⟨List.Perm.trans ?_ front.symm, rfl, rfl⟩
          simpa [pooled, closeConn, draining] using
            perm_move_to_end rest s.cleanup.held s.closedConns conn
        · refine ⟨List.Perm.trans ?_ front.symm, rfl, rfl⟩
          simpa [pooled, CleanupPc.held] using
            perm_move_to_middle_end rest held s.closedConns conn
      · rename_i held draining queued
        cases stepped
        split
        · exact ⟨List.Perm.refl _, rfl, rfl⟩
        · exact ⟨by simp [pooled, draining, CleanupPc.held], rfl, rfl⟩
      · cases stepped
  | cleanupSend =>
      simp only [cleanupStep] at stepped
      split at stepped
      · rename_i conn rest returning
        cases stepped
        split
        · exact ⟨List.Perm.refl _, rfl, rfl⟩
        · split
          · exact ⟨by simp [pooled, returning, CleanupPc.held], rfl, rfl⟩
          · have front : s.pooled.Perm (conn :: s.connections ++ rest ++ s.closedConns) := by
              simp [pooled, returning, CleanupPc.held]
            refine ⟨List.Perm.trans ?_ front.symm, rfl, rfl⟩
            simpa [pooled, closeConn, CleanupPc.held] using
              perm_move_to_end s.connections rest s.closedConns conn
      · rename_i returning
        cases stepped
        exact ⟨by simp [pooled, returning, CleanupPc.held], rfl, rfl⟩
      · cases stepped
  | _ => simp [cleanupStep] at stepped

theorem closeStep_reshuffles {s : PoolRun} {action : PoolStep} {next : PoolRun}
    (stepped : s.closeStep action = some next) : s.Reshuffles next := by
  cases action with
  | closeLock | closeChannel | closeWait =>
      simp only [closeStep] at stepped
      split at stepped
      · cases stepped
        (try split) <;> exact ⟨List.Perm.refl _, rfl, rfl⟩
      · cases stepped
  | closeReceive =>
      simp only [closeStep] at stepped
      split at stepped
      · split at stepped
        · rename_i conn rest queued
          cases stepped
          refine ⟨?_, rfl, rfl⟩
          simpa [pooled, closeConn, queued] using
            perm_move_to_end rest s.cleanup.held s.closedConns conn
        · cases stepped
          exact ⟨List.Perm.refl _, rfl, rfl⟩
      · cases stepped
  | _ => simp [closeStep] at stepped

theorem step_onePlace {s : PoolRun} (one : s.OnePlace) {action : PoolStep} {next : PoolRun}
    (stepped : s.step action = some next) : next.OnePlace := by
  simp only [step] at stepped
  split at stepped
  · cases stepped
  · split at stepped
    all_goals first
      | exact sessionStep_onePlace one stepped
      | exact one.reshuffle (cleanupStep_reshuffles stepped)
      | exact one.reshuffle (closeStep_reshuffles stepped)

theorem run_preserves (P : PoolRun → Prop)
    (preserved : ∀ {s action next}, P s → s.step action = some next → P next) :
    ∀ (actions : List PoolStep) {s final : PoolRun}, P s → s.run actions = some final → P final
  | [], _, _, holds, ran => by cases ran; exact holds
  | action :: rest, s, _, holds, ran => by
      simp only [run, Option.bind_eq_some] at ran
      obtain ⟨next, stepped, ran⟩ := ran
      exact run_preserves P preserved rest (preserved holds stepped) ran

/-- Every dialled connection is in exactly one place in every reachable state. -/
theorem run_onePlace (capacity : Nat) (actions : List PoolStep) {final : PoolRun}
    (ran : (new capacity).run actions = some final) : final.OnePlace :=
  run_preserves OnePlace (fun one stepped => step_onePlace one stepped) actions
    (new_onePlace capacity) ran

theorem run_onePlace_after_release_and_drain :
    let actions : List PoolStep := [.acquireCheck 0, .acquireReceive 0 true, .dial 0 true,
      .releaseCheck 0, .releaseSend 0 false, .cleanupTick, .cleanupReceive false]
    ∃ final, (new 1).run actions = some final ∧ final.OnePlace :=
  ⟨_, rfl, run_onePlace 1 [.acquireCheck 0, .acquireReceive 0 true, .dial 0 true,
    .releaseCheck 0, .releaseSend 0 false, .cleanupTick, .cleanupReceive false] rfl⟩

/-! ## The abstract holders -/

/-- The holders of `Ownership` in a state of the program. -/
def ownership : Ownership :=
  ⟨s.connections ++ s.cleanup.held, s.connCounter, fun k => (s.sessions k).conn?⟩

theorem OnePlace.exclusive {s : PoolRun} (one : s.OnePlace) : s.ownership.Exclusive where
  idle_nodup := one.pooled_nodup.sublist (List.sublist_append_left _ _)
  idle_dialled conn member := (one.pooled_dialled conn (List.mem_append_left _ member)).2
  held_dialled k conn held := (one.session_dialled k conn held).2
  held_not_idle k conn held member :=
    one.session_not_pooled k conn held (List.mem_append_left _ member)
  held_once := one.session_once

/-- No connection is lent to two sessions, or lent and idle, in any interleaving. -/
theorem run_exclusive (capacity : Nat) (actions : List PoolStep) {final : PoolRun}
    (ran : (new capacity).run actions = some final) : final.ownership.Exclusive :=
  (run_preserves OnePlace (fun one stepped => step_onePlace one stepped) actions
    (new_onePlace capacity) ran).exclusive

theorem run_exclusive_after_release_and_drain :
    let actions : List PoolStep := [.acquireCheck 0, .acquireReceive 0 true, .dial 0 true,
      .releaseCheck 0, .releaseSend 0 false, .cleanupTick, .cleanupReceive false]
    ∃ final, (new 1).run actions = some final ∧ final.ownership.Exclusive := by
  intro actions
  exact ⟨_, rfl, run_exclusive 1 actions rfl⟩

end PoolRun

end TransisiDB.Proxy
