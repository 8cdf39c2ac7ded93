import Mathlib.Data.List.Basic

set_option autoImplicit false

/-!
# MySQL packets

`protocol.Packet` as `ReadPacket` returns it (`cmd/debug_mysql/main.go` has the code): a
sequence id and a payload, whose length the three-byte length field of the header bounds by
`2^24 - 1`.  `writePacket` is the check `WritePacket` makes before it writes.  The command
and packet-type bytes are the constants of `pkg/protocol`, and `isOKPacket`, `isERRPacket`
and `isEOFPacket` are the tests of `pkg/protocol/resultset.go`.

A Go `string` converted from bytes holds those bytes; `goString` reads each byte as one
character, which is the text itself when the bytes are ASCII.
-/

namespace TransisiDB.Protocol

/-- The largest payload one packet carries, `2^24 - 1` bytes. -/
def maxPayload : Nat := 16777215

/-- `protocol.Packet` as `ReadPacket` returns it: the payload fits the length field. -/
structure Packet where
  sequenceID : UInt8
  payload : List UInt8
  payload_le : payload.length ≤ maxPayload

/-- `WritePacket`: the packet it writes, or its error for a payload too long for one packet. -/
def writePacket (sequenceID : UInt8) (payload : List UInt8) : Except String Packet :=
  if bounded : payload.length ≤ maxPayload then .ok ⟨sequenceID, payload, bounded⟩
  else .error ("packet too large: " ++ toString payload.length)

@[simp]
theorem writePacket_packet (pkt : Packet) : writePacket pkt.sequenceID pkt.payload = .ok pkt := by
  simp [writePacket, pkt.payload_le]

def comQuit : UInt8 := 0x01

def comInitDb : UInt8 := 0x02

def comQuery : UInt8 := 0x03

def comPing : UInt8 := 0x0e

def okPacket : UInt8 := 0x00

def errPacket : UInt8 := 0xFF

def eofPacket : UInt8 := 0xFE

/-- `IsOKPacket`: at least 7 bytes, the first `OK_PACKET`. -/
def isOKPacket (payload : List UInt8) : Bool :=
  if payload.length < 7 then false else payload.head? = some okPacket

/-- `IsERRPacket`: at least 3 bytes, the first `ERR_PACKET`. -/
def isERRPacket (payload : List UInt8) : Bool :=
  if payload.length < 3 then false else payload.head? = some errPacket

/-- `IsEOFPacket`: five to eight bytes, the first `EOF_PACKET`. -/
def isEOFPacket (payload : List UInt8) : Bool :=
  if payload.length < 5 then false else payload.head? = some eofPacket ∧ payload.length < 9

/-- `string(bytes)`. -/
def goString (bytes : List UInt8) : String :=
  ⟨bytes.map fun b => Char.ofNat b.toNat⟩

end TransisiDB.Protocol
