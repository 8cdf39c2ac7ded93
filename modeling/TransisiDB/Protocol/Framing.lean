import TransisiDB.Protocol.Packet
import TransisiDB.Protocol.Bytes

set_option autoImplicit false

/-!
# Packet framing

`WritePacket` writes a four-byte header, the payload's length in three little-endian bytes
and the sequence id, and then the payload; it writes nothing when the payload does not fit.
`ReadPacket` reads the header with `io.ReadFull`, then as many bytes as the header's length.
A stream is the list of bytes written to it; `io.ReadFull` fails with `EOF` when the stream
is empty and with `unexpected EOF` when it ends early.

* `writePackets_readPackets_roundTrip`: writing any list of packets in order and reading as
  many back gives the same sequence ids and payloads and consumes the stream.
-/

namespace TransisiDB.Protocol

/-- The header `WritePacket` writes for a payload of `length` bytes. -/
def header (sequenceID : UInt8) (length : Nat) : List UInt8 :=
  leBytes 3 length ++ [sequenceID]

/-- The bytes of a packet on the wire. -/
def Packet.bytes (pkt : Packet) : List UInt8 :=
  header pkt.sequenceID pkt.payload.length ++ pkt.payload

/-- What `WritePacket` writes, or its error. -/
def writePacketBytes (sequenceID : UInt8) (payload : List UInt8) : Except String (List UInt8) :=
  (writePacket sequenceID payload).map Packet.bytes

/-- `io.ReadFull` of `count` bytes: those bytes and the rest of the stream. -/
def readFull (count : Nat) (stream : List UInt8) : Except String (List UInt8 × List UInt8) :=
  if count ≤ stream.length then .ok (stream.take count, stream.drop count)
  else if stream = [] then .error "EOF"
  else .error "unexpected EOF"

theorem length_of_readFull {count : Nat} {stream bytes rest : List UInt8}
    (read : readFull count stream = .ok (bytes, rest)) : bytes.length = count := by
  unfold readFull at read
  split_ifs at read with enough
  · cases read
    exact List.length_take_of_le enough

theorem payload_le_of_readFull {header stream payload rest : List UInt8}
    (read : readFull (leValue (header.take 3)) stream = .ok (payload, rest)) :
    payload.length ≤ maxPayload := by
  have small := leValue_lt (header.take 3)
  have three : (header.take 3).length ≤ 3 := List.length_take_le 3 header
  have bound : 256 ^ (header.take 3).length ≤ 256 ^ 3 := Nat.pow_le_pow_right (by decide) three
  rw [length_of_readFull read]
  unfold maxPayload
  omega

/-- `ReadPacket`: the packet at the head of the stream and the rest of the stream. -/
def readPacket (stream : List UInt8) : Except String (Packet × List UInt8) :=
  match readFull 4 stream with
  | .error err => .error err
  | .ok (header, rest) =>
      match read : readFull (leValue (header.take 3)) rest with
      | .error err => .error err
      | .ok (payload, rest) =>
          .ok (⟨header.getD 3 0, payload, payload_le_of_readFull read⟩, rest)

/-- `WritePacket` for each packet in order, stopping at the first error. -/
def writePackets : List (UInt8 × List UInt8) → Except String (List UInt8)
  | [] => .ok []
  | (sequenceID, payload) :: rest => do
      let bytes ← writePacketBytes sequenceID payload
      let more ← writePackets rest
      pure (bytes ++ more)

/-- `ReadPacket` called `count` times: the sequence ids and payloads, and what is left. -/
def readPackets : Nat → List UInt8 → Except String (List (UInt8 × List UInt8) × List UInt8)
  | 0, stream => .ok ([], stream)
  | count + 1, stream => do
      let (pkt, rest) ← readPacket stream
      let (pkts, rest) ← readPackets count rest
      pure ((pkt.sequenceID, pkt.payload) :: pkts, rest)

theorem readFull_append (bytes rest : List UInt8) :
    readFull bytes.length (bytes ++ rest) = .ok (bytes, rest) := by
  simp [readFull]

theorem leValue_header (sequenceID : UInt8) {length : Nat} (fits : length ≤ maxPayload) :
    leValue ((header sequenceID length).take 3) = length := by
  have firstThree : (header sequenceID length).take 3 = leBytes 3 length := by
    simp [header, List.take_append_eq_append_take]
  rw [firstThree, leValue_leBytes, Nat.mod_eq_of_lt]
  unfold maxPayload at fits
  omega

theorem readPacket_bytes (pkt : Packet) (rest : List UInt8) :
    readPacket (pkt.bytes ++ rest) = .ok (pkt, rest) := by
  have headerRead : readFull 4 (pkt.bytes ++ rest) =
      .ok (header pkt.sequenceID pkt.payload.length, pkt.payload ++ rest) := by
    have four : (header pkt.sequenceID pkt.payload.length).length = 4 := by simp [header]
    rw [Packet.bytes, List.append_assoc, ← four, readFull_append]
  have payloadRead : readFull (leValue ((header pkt.sequenceID pkt.payload.length).take 3))
      (pkt.payload ++ rest) = .ok (pkt.payload, rest) := by
    rw [leValue_header _ pkt.payload_le, readFull_append]
  simp only [readPacket, headerRead]
  split
  · rename_i failed; rw [payloadRead] at failed; cases failed
  · rename_i read
    rw [payloadRead] at read
    cases read
    simp [header]

theorem writePacketBytes_of_le {sequenceID : UInt8} {payload : List UInt8}
    (fits : payload.length ≤ maxPayload) :
    writePacketBytes sequenceID payload = .ok (Packet.bytes ⟨sequenceID, payload, fits⟩) := by
  simp [writePacketBytes, writePacket, fits, Except.map]

theorem readPackets_writePackets (packets : List (UInt8 × List UInt8))
    (fits : ∀ packet ∈ packets, packet.2.length ≤ maxPayload) (rest : List UInt8) :
    ∃ bytes, writePackets packets = .ok bytes ∧
      readPackets packets.length (bytes ++ rest) = .ok (packets, rest) := by
  induction packets with
  | nil => exact ⟨[], rfl, rfl⟩
  | cons packet more inductionHypothesis =>
      obtain ⟨sequenceID, payload⟩ := packet
      have first := fits _ (List.mem_cons_self _ _)
      obtain ⟨bytes, written, read⟩ :=
        inductionHypothesis fun packet member => fits packet (List.mem_cons_of_mem _ member)
      refine ⟨Packet.bytes ⟨sequenceID, payload, first⟩ ++ bytes, ?_, ?_⟩
      · simp [writePackets, writePacketBytes_of_le first, written, bind, Except.bind, pure,
          Except.pure]
      · simp [readPackets, List.append_assoc, readPacket_bytes, read, bind, Except.bind,
          Functor.map, Except.map, pure, Except.pure]

/-- `ReadPacket` reads back every packet `WritePacket` wrote, in order. -/
theorem writePackets_readPackets_roundTrip :
    (∀ packets : List (UInt8 × List UInt8), (∀ packet ∈ packets, packet.2.length ≤ maxPayload) →
      (writePackets packets).bind (readPackets packets.length) = .ok (packets, [])) ∧
    (∀ (sequenceID : UInt8) (payload : List UInt8), maxPayload < payload.length →
      writePacketBytes sequenceID payload =
        .error ("packet too large: " ++ toString payload.length)) := by
  refine ⟨fun packets fits => ?_, fun sequenceID payload tooLong => ?_⟩
  · obtain ⟨bytes, written, read⟩ := readPackets_writePackets packets fits []
    rw [List.append_nil] at read
    rw [written]
    exact read
  · simp [writePacketBytes, writePacket, Nat.not_le.mpr tooLong, Except.map]

end TransisiDB.Protocol
