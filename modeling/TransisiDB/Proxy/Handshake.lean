import TransisiDB.Protocol.Packet

set_option autoImplicit false

/-!
# The connection-phase relay of `Session.Handle`

Steps 2 to 4 of `Session.Handle`: the backend's handshake goes to the client, the client's
response goes to the backend, and the auth loop forwards each backend packet to the client,
breaks on an OK (`IsOKPacket`), returns on an ERR (`IsERRPacket`), reads and forwards one
client packet after a packet that starts with `0xFE` or `0x01`, and otherwise reads the
backend again.

An exchange of the MySQL connection phase is the list of the packets the two ends send, in
the order the protocol has them sent; each end sends only when it is its turn and otherwise
waits to receive.  `relay` follows `Handle` along an exchange, and ends where `Handle` ends
or where it reads from one end while the exchange has the other end send next, or nothing
more: the proxy and both ends then wait on each other for good.
-/

namespace TransisiDB.Proxy

open TransisiDB.Protocol

/-- The two ends the proxy relays between. -/
inductive Party where
  | client
  | backend
  deriving DecidableEq, Repr

/-- One packet of an exchange: who sends it, and its payload. -/
structure Message where
  sender : Party
  payload : List UInt8
  deriving DecidableEq, Repr

/-- Where the relay of `Handle` ends. -/
inductive RelayOutcome where
  | commandPhase (rest : List Message)
  | authFailed
  | waitsOn (party : Party)
  deriving DecidableEq, Repr

/-- Whether the auth loop reads a client packet after this backend packet. -/
def readsClient : List UInt8 → Bool
  | pktType :: _ => pktType = 0xFE || pktType = 0x01
  | [] => false

/-- The auth loop of `Handle` along what is left of the exchange. -/
def authLoop : List Message → RelayOutcome
  | [] => .waitsOn .backend
  | message :: rest =>
      if message.sender = .client then .waitsOn .backend
      else if isOKPacket message.payload then .commandPhase rest
      else if isERRPacket message.payload then .authFailed
      else if readsClient message.payload then
        match rest with
        | reply :: more => if reply.sender = .client then authLoop more else .waitsOn .client
        | [] => .waitsOn .client
      else authLoop rest

/-- `Handle` from the backend's handshake to the end of the auth loop. -/
def relay : List Message → RelayOutcome
  | greeting :: response :: rest =>
      if greeting.sender = .client then .waitsOn .backend
      else if response.sender = .backend then .waitsOn .client
      else authLoop rest
  | [greeting] => if greeting.sender = .client then .waitsOn .backend else .waitsOn .client
  | [] => .waitsOn .backend

/-- A `caching_sha2_password` login the server accepts from its cache. -/
def fastAuthExchange (greeting response ok : List UInt8) : List Message :=
  [⟨.backend, greeting⟩, ⟨.client, response⟩, ⟨.backend, [0x01, 0x03]⟩, ⟨.backend, ok⟩]

/-- Fast authentication, or an OK of under seven bytes, deadlocks the relay. -/
theorem relay_deadlocks_on_fast_auth_and_short_ok (greeting response ok : List UInt8)
    (rest : List Message) {short : List UInt8} (header : short.head? = some okPacket)
    (tooShort : short.length < 7) :
    relay (fastAuthExchange greeting response ok ++ rest) = .waitsOn .client ∧
      relay [⟨.backend, greeting⟩, ⟨.client, response⟩, ⟨.backend, short⟩] =
        .waitsOn .backend := by
  refine ⟨by simp [relay, fastAuthExchange, authLoop, isOKPacket, isERRPacket, readsClient], ?_⟩
  have notOk : isOKPacket short = false := by simp [isOKPacket, tooShort]
  have notErr : isERRPacket short = false := by
    simp [isERRPacket, header, okPacket, errPacket]
  have noReply : readsClient short = false := by
    cases short with
    | nil => rfl
    | cons pktType tail =>
        simp only [List.head?_cons, Option.some.injEq] at header
        simp [readsClient, header, okPacket]
  simp [relay, authLoop, notOk, notErr, noReply]

theorem relay_deadlocks_on_fast_auth_and_five_byte_ok :
    ([0x00, 0x00, 0x00, 0x02, 0x00] : List UInt8).head? = some okPacket ∧
      ([0x00, 0x00, 0x00, 0x02, 0x00] : List UInt8).length < 7 ∧
      relay (fastAuthExchange [] [] [] ++ []) = .waitsOn .client ∧
      relay [⟨.backend, []⟩, ⟨.client, []⟩, ⟨.backend, [0x00, 0x00, 0x00, 0x02, 0x00]⟩] =
        .waitsOn .backend :=
  ⟨rfl, by decide, relay_deadlocks_on_fast_auth_and_short_ok [] [] [] [] rfl (by decide)⟩

end TransisiDB.Proxy
