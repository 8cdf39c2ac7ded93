import TransisiDB.Protocol.Packet
import TransisiDB.Proxy.DualWrite

set_option autoImplicit false

/-!
# The command loop over packets

`Session.handleCommands` reads one packet after another from the client, skips a packet whose
payload is empty, and dispatches every other packet on the first byte of its payload.
`Session.dispatch` is one packet: the command it carries is the `Command` that
`Session.handleCommand` takes, and the packet written to the backend is the client's, or for
a rewritten query a `COM_QUERY` packet with the same sequence id and the rewritten text.
`Session.handlePackets` is the loop: the session when it ends, the packets written to the
backend, and the error it returns (`none` for `COM_QUIT`).  The client's stream ends with the
read error of `ReadPacket`.

`sqlparser.String` of a rewritten statement is the argument `print`, as `sqlparser.Parse` is
the argument `parse`.

`firstCommand` is the framing of the MySQL protocol the loop is compared with: a command's
payload continues in the next packet as long as the packet carrying it is full.
-/

namespace TransisiDB.Proxy

open TransisiDB.Sql TransisiDB.Protocol

/-- The command `handleCommands` reads from a payload that starts with `cmd`. -/
def Command.ofBytes (cmd : UInt8) (args : List UInt8) : Command :=
  if cmd = comQuit then .quit
  else if cmd = comPing then .ping
  else if cmd = comInitDb then .initDb (goString args)
  else if cmd = comQuery then .query (goString args)
  else .other cmd.toNat

@[simp]
theorem Command.ofBytes_comQuit (args : List UInt8) : Command.ofBytes comQuit args = .quit := rfl

@[simp]
theorem Command.ofBytes_comQuery (args : List UInt8) :
    Command.ofBytes comQuery args = .query (goString args) := rfl

/-- The payload `handleQuery` hands to `forwardCommand`. -/
def Forwarded.payload (print : Statement → String) (pkt : Packet) : Forwarded → List UInt8
  | .original => pkt.payload
  | .rewritten stmt => comQuery :: (print stmt).toUTF8.data.toList

/-- What one packet does to the command loop. -/
inductive Dispatch where
  | skip
  | stop (s : Session) (err : Option String)
  | forward (s : Session) (sent : Packet)

namespace Session

variable (parse : String → Option Statement) (print : Statement → String) [Keywords]

/-- One packet of `handleCommands`. -/
def dispatch (s : Session) (pkt : Packet) : Dispatch :=
  match pkt.payload with
  | [] => .skip
  | cmd :: args =>
      match Command.ofBytes cmd args with
      | .quit => .stop s none
      | .query text =>
          match writePacket pkt.sequenceID ((s.handleQuery parse text).2.payload print pkt) with
          | .ok sent => .forward (s.handleQuery parse text).1 sent
          | .error err => .stop (s.trackTransaction text)
              (some ("failed to forward command to backend: " ++ err))
      | command => .forward (s.handleCommand parse command) pkt

/-- `handleCommands` over the client's packets. -/
def handlePackets (s : Session) : List Packet → Session × List Packet × Option String
  | [] => (s, [], some "read command error: EOF")
  | pkt :: rest =>
      match s.dispatch parse print pkt with
      | .skip => s.handlePackets rest
      | .stop stopped err => (stopped, [], err)
      | .forward next sent =>
          let (final, written, err) := next.handlePackets rest
          (final, sent :: written, err)

variable {parse print}

theorem dispatch_of_empty (s : Session) {pkt : Packet} (empty : pkt.payload = []) :
    s.dispatch parse print pkt = .skip := by
  simp [dispatch, empty]

theorem dispatch_of_quit (s : Session) {pkt : Packet} {args : List UInt8}
    (quit : pkt.payload = comQuit :: args) : s.dispatch parse print pkt = .stop s none := by
  simp only [dispatch, quit, Command.ofBytes_comQuit]

theorem dispatch_of_query (s : Session) {pkt : Packet} {bytes : List UInt8}
    (query : pkt.payload = comQuery :: bytes) :
    s.dispatch parse print pkt =
      match writePacket pkt.sequenceID
          ((s.handleQuery parse (goString bytes)).2.payload print pkt) with
      | .ok sent => .forward (s.handleQuery parse (goString bytes)).1 sent
      | .error err => .stop (s.trackTransaction (goString bytes))
          (some ("failed to forward command to backend: " ++ err)) := by
  simp only [dispatch, query, Command.ofBytes_comQuery]

end Session

/-- The packets of the command that starts a stream, by the protocol's framing. -/
def firstCommand : List Packet → List Packet
  | [] => []
  | pkt :: rest => if pkt.payload.length < maxPayload then [pkt] else pkt :: firstCommand rest

namespace Session

variable {parse print}

/-- A query that is not a dual-write candidate is forwarded as the client sent it. -/
theorem dispatch_forwards_query_unchanged [Keywords] (s : Session) {pkt : Packet}
    {bytes : List UInt8} (query : pkt.payload = comQuery :: bytes)
    (passthrough : ∀ stmt, parse (goString bytes) = some stmt →
      isDualWriteCandidate s.config stmt = false) :
    s.dispatch parse print pkt = .forward (s.handleQuery parse (goString bytes)).1 pkt := by
  have original : (s.handleQuery parse (goString bytes)).2 = .original := by
    cases parsed : parse (goString bytes) with
    | none => simp [handleQuery, parsed, rewriteQuery]
    | some stmt =>
        simpa [handleQuery, parsed] using
          (rewriteQuery_eq_original_iff _ _).mpr (passthrough stmt parsed)
  rw [dispatch_of_query s query, original, Forwarded.payload, writePacket_packet]

attribute [local instance] someKeywords in
theorem dispatch_forwards_select_unchanged :
    let pkt : Packet := ⟨0, comQuery :: [0x53, 0x45, 0x4C, 0x45, 0x43, 0x54, 0x20, 0x31],
      by decide⟩
    let parse : String → Option Statement := fun _ => some (.select [])
    let s := Session.new testConfig (BackendConn.new 1)
    pkt.payload = comQuery :: [0x53, 0x45, 0x4C, 0x45, 0x43, 0x54, 0x20, 0x31] ∧
      (∀ stmt, parse (goString [0x53, 0x45, 0x4C, 0x45, 0x43, 0x54, 0x20, 0x31]) = some stmt →
        isDualWriteCandidate s.config stmt = false) ∧
      s.dispatch parse (fun _ => "") pkt =
        .forward (s.handleQuery parse (goString [0x53, 0x45, 0x4C, 0x45, 0x43, 0x54, 0x20, 0x31])).1
          pkt := by
  intro pkt parse s
  have passthrough : ∀ stmt, parse (goString [0x53, 0x45, 0x4C, 0x45, 0x43, 0x54, 0x20, 0x31]) =
      some stmt → isDualWriteCandidate s.config stmt = false := by
    rintro stmt ⟨⟩
    rfl
  exact ⟨rfl, passthrough, @dispatch_forwards_query_unchanged parse (fun _ => "") _ s pkt _ rfl
    passthrough⟩

/-- A full payload's continuation is dispatched as a command, and an empty one skipped. -/
theorem handlePackets_splits_full_payload [Keywords] (s : Session) {first : Packet}
    (full : first.payload.length = maxPayload) {chunk : Packet}
    (quitByte : chunk.payload.head? = some comQuit) {terminator : Packet}
    (empty : terminator.payload = []) (rest : List Packet) :
    firstCommand (first :: chunk :: rest) = first :: firstCommand (chunk :: rest) ∧
      (s.handlePackets parse print (first :: chunk :: rest)).2.1 =
        (s.handlePackets parse print [first]).2.1 ∧
      firstCommand (first :: terminator :: rest) = [first, terminator] ∧
      s.handlePackets parse print (first :: terminator :: rest) =
        s.handlePackets parse print (first :: rest) := by
  obtain ⟨args, quit⟩ : ∃ args, chunk.payload = comQuit :: args := by
    cases payload : chunk.payload with
    | nil => simp [payload] at quitByte
    | cons cmd args => simp_all
  refine ⟨by simp [firstCommand, full], ?_, by simp [firstCommand, full, empty, maxPayload], ?_⟩
  · cases dispatched : s.dispatch parse print first <;>
      simp [handlePackets, dispatched, dispatch_of_quit _ quit]
  · cases dispatched : s.dispatch parse print first <;>
      simp [handlePackets, dispatched, dispatch_of_empty _ empty]

attribute [local instance] someKeywords in
theorem handlePackets_splits_full_query :
    let first : Packet :=
      ⟨0, comQuery :: List.replicate (maxPayload - 1) 0x20,
        by rw [List.length_cons, List.length_replicate]; decide⟩
    let chunk : Packet := ⟨1, [comQuit, 0x20], by decide⟩
    let terminator : Packet := ⟨1, [], by decide⟩
    let s := Session.new testConfig (BackendConn.new 1)
    first.payload.length = maxPayload ∧ chunk.payload.head? = some comQuit ∧
      terminator.payload = [] ∧
      firstCommand [first, chunk] = first :: firstCommand [chunk] ∧
      (s.handlePackets (fun _ => none) (fun _ => "") [first, chunk]).2.1 =
        (s.handlePackets (fun _ => none) (fun _ => "") [first]).2.1 ∧
      firstCommand [first, terminator] = [first, terminator] ∧
      s.handlePackets (fun _ => none) (fun _ => "") [first, terminator] =
        s.handlePackets (fun _ => none) (fun _ => "") [first] := by
  intro first chunk terminator s
  have full : first.payload.length = maxPayload := by
    rw [List.length_cons, List.length_replicate]; decide
  exact ⟨full, rfl, rfl, @handlePackets_splits_full_payload (fun _ => none) (fun _ => "") _ s first
    full chunk rfl terminator rfl []⟩

end Session

end TransisiDB.Proxy
