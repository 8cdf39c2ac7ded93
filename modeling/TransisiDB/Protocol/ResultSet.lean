import TransisiDB.Protocol.Packet
import TransisiDB.Protocol.Bytes

set_option autoImplicit false

/-!
# Length-encoded integers, OK, ERR and EOF packets

`readLengthEncodedInt`, `readLengthEncodedString`, `WriteLengthEncodedInt`,
`WriteLengthEncodedString`, `ParseOKPacket`, `ParseERRPacket` and `ParseEOFPacket` of
`pkg/protocol/resultset.go`.  A Go string
is the list of its bytes, and a `uint64` or `uint16` the number it holds; where a sum of them
can wrap, the model takes it modulo `2 ^ 64`, and a Go slice is a list shorter than `2 ^ 63`.

* `lengthEncoded_roundTrip`: reading back a written integer or string gives it back, with
  the number of bytes written, whatever follows it.
* `readLengthEncodedString_cases`: on every Go slice, `readLengthEncodedString` returns an
  error, returns the announced bytes with no index out of range, or panics, and it panics
  exactly when `uint64(n)+length` wraps, as it does after a `0xfe` header announcing
  `2 ^ 64 - 1` bytes (`readLengthEncodedString_panics_on_wrapped_length`).
* `OKPacket.Encodes` is the grammar of an OK packet, `LengthEncoded` that of a
  length-encoded integer; `parseOKPacket_of_encodes` says `ParseOKPacket` reads every
  packet of the grammar correctly, and `parseOKPacket_accepts_outside_grammar` that it also
  accepts packets outside it.
* `parseERRPacket_roundTrip`: `ParseERRPacket` and `ParseEOFPacket` read back the ERR and
  EOF packets a server writes, and `IsERRPacket` and `IsEOFPacket` accept them.
-/

namespace TransisiDB.Protocol

/-- `readLengthEncodedInt`: the value and the number of bytes read. -/
def readLengthEncodedInt (b : List UInt8) : Nat × Nat :=
  match b with
  | [] => (0, 0)
  | first :: rest =>
      if first = 0xfb then (0, 1)
      else if first = 0xfc then
        if b.length < 3 then (0, 0) else (leValue (rest.take 2), 3)
      else if first = 0xfd then
        if b.length < 4 then (0, 0) else (leValue (rest.take 3), 4)
      else if first = 0xfe then
        if b.length < 9 then (0, 0) else (leValue (rest.take 8), 9)
      else (first.toNat, 1)

/-- `WriteLengthEncodedInt`: `n` appended to `buf`. -/
def writeLengthEncodedInt (buf : List UInt8) (n : UInt64) : List UInt8 :=
  if n.toNat < 251 then buf ++ [UInt8.ofNat n.toNat]
  else if n.toNat < 2 ^ 16 then buf ++ 0xfc :: leBytes 2 n.toNat
  else if n.toNat < 2 ^ 24 then buf ++ 0xfd :: leBytes 3 n.toNat
  else buf ++ 0xfe :: leBytes 8 n.toNat

/-- `WriteLengthEncodedString`: the length of `s`, then its bytes. -/
def writeLengthEncodedString (buf s : List UInt8) : List UInt8 :=
  writeLengthEncodedInt buf (UInt64.ofNat s.length) ++ s

/-- A run-time panic of Go. -/
inductive GoPanic where
  | sliceBoundsOutOfRange (low high : Nat)
  deriving DecidableEq, Repr

/-- `readLengthEncodedString`: string, bytes read and error, or the panic of its slice. -/
def readLengthEncodedString (b : List UInt8) : Except GoPanic (List UInt8 × Int × Option String) :=
  let (length, n) := readLengthEncodedInt b
  if n = 0 then .ok ([], 0, some "failed to read length")
  else if length = 0 then .ok ([], n, none)
  else
    let high := (n + length) % 2 ^ 64
    if b.length < high then .ok ([], 0, some "not enough data for string")
    else if high < n then .error (.sliceBoundsOutOfRange n high)
    else .ok ((b.take high).drop n, Int.bmod (n + length) (2 ^ 64), none)

/-- The MySQL length-encoded integer grammar: `bytes` encode `value`. -/
inductive LengthEncoded : List UInt8 → Nat → Prop
  | oneByte (b : UInt8) : b.toNat < 0xfb → LengthEncoded [b] b.toNat
  | twoBytes (bytes : List UInt8) :
      bytes.length = 2 → LengthEncoded (0xfc :: bytes) (leValue bytes)
  | threeBytes (bytes : List UInt8) :
      bytes.length = 3 → LengthEncoded (0xfd :: bytes) (leValue bytes)
  | eightBytes (bytes : List UInt8) :
      bytes.length = 8 → LengthEncoded (0xfe :: bytes) (leValue bytes)

/-- The length of the encoding a first byte announces; `none` for `0xfb` and `0xff`. -/
def encodedLength (first : UInt8) : Option Nat :=
  if first.toNat < 0xfb then some 1
  else if first = 0xfc then some 3
  else if first = 0xfd then some 4
  else if first = 0xfe then some 9
  else none

theorem LengthEncoded.announced {bytes : List UInt8} {value : Nat}
    (encoded : LengthEncoded bytes value) :
    ∃ first rest, bytes = first :: rest ∧ encodedLength first = some bytes.length := by
  cases encoded with
  | oneByte b small => exact ⟨b, [], rfl, by simp [encodedLength, small]⟩
  | twoBytes bytes two => exact ⟨0xfc, bytes, rfl, by rw [List.length_cons, two]; rfl⟩
  | threeBytes bytes three => exact ⟨0xfd, bytes, rfl, by rw [List.length_cons, three]; rfl⟩
  | eightBytes bytes eight => exact ⟨0xfe, bytes, rfl, by rw [List.length_cons, eight]; rfl⟩

theorem LengthEncoded.length_pos {bytes : List UInt8} {value : Nat}
    (encoded : LengthEncoded bytes value) : 0 < bytes.length := by
  obtain ⟨first, rest, rfl, -⟩ := encoded.announced
  exact Nat.succ_pos _

theorem readLengthEncodedInt_of_lengthEncoded {bytes : List UInt8} {value : Nat}
    (encoded : LengthEncoded bytes value) (rest : List UInt8) :
    readLengthEncodedInt (bytes ++ rest) = (value, bytes.length) := by
  cases encoded with
  | oneByte b small =>
      have notMarker : ∀ marker : UInt8, 0xfb ≤ marker.toNat → b ≠ marker :=
        fun marker large same => by subst same; omega
      simp [readLengthEncodedInt, notMarker 0xfb (by decide), notMarker 0xfc (by decide),
        notMarker 0xfd (by decide), notMarker 0xfe (by decide)]
  | twoBytes bytes two => simp [readLengthEncodedInt, List.take_left' two, two]
  | threeBytes bytes three => simp [readLengthEncodedInt, List.take_left' three, three]
  | eightBytes bytes eight => simp [readLengthEncodedInt, List.take_left' eight, eight]

theorem lengthEncoded_writeLengthEncodedInt (n : UInt64) :
    LengthEncoded (writeLengthEncodedInt [] n) n.toNat := by
  have bound : n.toNat < 2 ^ 64 := n.toBitVec.isLt
  have encodes : ∀ width, n.toNat < 256 ^ width → leValue (leBytes width n.toNat) = n.toNat :=
    fun width fits => by rw [leValue_leBytes, Nat.mod_eq_of_lt fits]
  unfold writeLengthEncodedInt
  split_ifs with small medium large
  · have byte := LengthEncoded.oneByte (UInt8.ofNat n.toNat) (by rw [toNat_ofNat_byte]; omega)
    rwa [toNat_ofNat_byte, Nat.mod_eq_of_lt (by omega)] at byte
  · have encoded := LengthEncoded.twoBytes (leBytes 2 n.toNat) (length_leBytes 2 _)
    rwa [encodes 2 medium] at encoded
  · have encoded := LengthEncoded.threeBytes (leBytes 3 n.toNat) (length_leBytes 3 _)
    rwa [encodes 3 large] at encoded
  · have encoded := LengthEncoded.eightBytes (leBytes 8 n.toNat) (length_leBytes 8 _)
    rwa [encodes 8 bound] at encoded

theorem readLengthEncodedInt_write (n : UInt64) (rest : List UInt8) :
    readLengthEncodedInt (writeLengthEncodedInt [] n ++ rest) =
      (n.toNat, (writeLengthEncodedInt [] n).length) :=
  readLengthEncodedInt_of_lengthEncoded (lengthEncoded_writeLengthEncodedInt n) rest

theorem readLengthEncodedInt_snd_le (b : List UInt8) : (readLengthEncodedInt b).2 ≤ b.length := by
  cases b with
  | nil => rfl
  | cons first rest =>
      simp only [readLengthEncodedInt, List.length_cons]
      split_ifs <;> omega

theorem readLengthEncodedInt_bounds (b : List UInt8) :
    (readLengthEncodedInt b).1 < 2 ^ 64 ∧ (readLengthEncodedInt b).2 ≤ 9 := by
  have fits : ∀ (rest : List UInt8) (width : Nat), width ≤ 8 → leValue (rest.take width) < 2 ^ 64 :=
    fun rest width small => calc
      leValue (rest.take width) < 256 ^ (rest.take width).length := leValue_lt _
      _ ≤ 256 ^ 8 := Nat.pow_le_pow_right (by decide) ((List.length_take_le _ _).trans small)
      _ = 2 ^ 64 := rfl
  cases b with
  | nil => exact ⟨by decide, by decide⟩
  | cons first rest =>
      have byte : first.toNat < 256 := first.toBitVec.isLt
      simp only [readLengthEncodedInt]
      split_ifs <;> constructor <;> dsimp only <;> first | omega | exact fits rest _ (by decide)

theorem bmod_two_pow_64_of_lt {x : Nat} (small : x < 2 ^ 63) : Int.bmod x (2 ^ 64) = x := by
  have below : (x : Int) % (2 ^ 64 : Nat) = x := Int.emod_eq_of_lt (by omega) (by omega)
  rw [Int.bmod_pos _ _ (by rw [below]; omega), below]

section ReadString

variable {b : List UInt8} {length n : Nat}

theorem readLengthEncodedString_of_le (read : readLengthEncodedInt b = (length, n))
    (positive : 0 < n) (fits : n + length ≤ b.length) (slice : b.length < 2 ^ 63) :
    readLengthEncodedString b = .ok ((b.take (n + length)).drop n, n + length, none) := by
  have noWrap : (n + length) % 2 ^ 64 = n + length := Nat.mod_eq_of_lt (by omega)
  unfold readLengthEncodedString
  rw [read]
  dsimp only
  rw [if_neg (by omega), noWrap]
  split_ifs with empty short wrapped
  · subst empty
    simp [List.drop_eq_nil_of_le (List.length_take_le n b)]
  · omega
  · omega
  · rw [← Int.natCast_add, bmod_two_pow_64_of_lt (by omega)]

theorem readLengthEncodedString_of_wrap (read : readLengthEncodedInt b = (length, n))
    (wraps : 2 ^ 64 ≤ n + length) :
    readLengthEncodedString b = .error (.sliceBoundsOutOfRange n (n + length - 2 ^ 64)) := by
  have ⟨small, header⟩ := readLengthEncodedInt_bounds b
  have within := readLengthEncodedInt_snd_le b
  rw [read] at small header within
  have wrapped : (n + length) % 2 ^ 64 = n + length - 2 ^ 64 := by omega
  unfold readLengthEncodedString
  rw [read]
  dsimp only
  rw [if_neg (by omega), if_neg (by omega), wrapped, if_neg (by omega), if_pos (by omega)]

/-- A length of `2 ^ 64 - 1` wraps the bound check, and the slice panics. -/
theorem readLengthEncodedString_panics_on_wrapped_length :
    readLengthEncodedInt (0xfe :: List.replicate 8 0xff) = (2 ^ 64 - 1, 9) ∧
      readLengthEncodedString (0xfe :: List.replicate 8 0xff) =
        .error (.sliceBoundsOutOfRange 9 8) := by
  have read : readLengthEncodedInt (0xfe :: List.replicate 8 0xff) = (2 ^ 64 - 1, 9) := rfl
  refine ⟨read, ?_⟩
  simpa using readLengthEncodedString_of_wrap read (by simp)

theorem readLengthEncodedString_of_short (read : readLengthEncodedInt b = (length, n))
    (positive : 0 < n) (short : b.length < n + length) (noWrap : n + length < 2 ^ 64) :
    readLengthEncodedString b = .ok ([], 0, some "not enough data for string") := by
  have within := readLengthEncodedInt_snd_le b
  rw [read] at within
  unfold readLengthEncodedString
  rw [read]
  dsimp only
  rw [if_neg (by omega), if_neg (by omega), Nat.mod_eq_of_lt noWrap, if_pos short]

theorem readLengthEncodedString_cases (read : readLengthEncodedInt b = (length, n))
    (slice : b.length < 2 ^ 63) :
    (n = 0 ∧ readLengthEncodedString b = .ok ([], 0, some "failed to read length")) ∨
      (2 ^ 64 ≤ n + length ∧
        readLengthEncodedString b = .error (.sliceBoundsOutOfRange n (n + length - 2 ^ 64))) ∨
      (b.length < n + length ∧ n + length < 2 ^ 64 ∧
        readLengthEncodedString b = .ok ([], 0, some "not enough data for string")) ∨
      (n + length ≤ b.length ∧
        readLengthEncodedString b = .ok ((b.take (n + length)).drop n, n + length, none)) := by
  by_cases nothing : n = 0
  · refine .inl ⟨nothing, ?_⟩
    unfold readLengthEncodedString
    rw [read]
    exact if_pos nothing
  by_cases wraps : 2 ^ 64 ≤ n + length
  · exact .inr (.inl ⟨wraps, readLengthEncodedString_of_wrap read wraps⟩)
  by_cases short : b.length < n + length
  · exact .inr (.inr (.inl ⟨short, by omega, readLengthEncodedString_of_short read (by omega)
      short (by omega)⟩))
  · exact .inr (.inr (.inr ⟨by omega, readLengthEncodedString_of_le read (by omega) (by omega)
      slice⟩))

end ReadString

theorem readLengthEncodedString_write {s rest : List UInt8}
    (slice : (writeLengthEncodedString [] s ++ rest).length < 2 ^ 63) :
    readLengthEncodedString (writeLengthEncodedString [] s ++ rest) =
      .ok (s, (writeLengthEncodedString [] s).length, none) := by
  have read := readLengthEncodedInt_write (UInt64.ofNat s.length) (s ++ rest)
  have written := (lengthEncoded_writeLengthEncodedInt (UInt64.ofNat s.length)).length_pos
  unfold writeLengthEncodedString at slice ⊢
  rw [List.length_append, List.length_append] at slice
  have length : (UInt64.ofNat s.length).toNat = s.length := Nat.mod_eq_of_lt (by omega)
  rw [length] at read
  rw [List.append_assoc, readLengthEncodedString_of_le read written (by simp) (by simp; omega)]
  simp [List.take_append_eq_append_take]

/-- Reading back a length-encoded integer or string gives the value and its length. -/
theorem lengthEncoded_roundTrip :
    (∀ (n : UInt64) (rest : List UInt8),
      readLengthEncodedInt (writeLengthEncodedInt [] n ++ rest) =
        (n.toNat, (writeLengthEncodedInt [] n).length)) ∧
    (∀ s rest : List UInt8, (writeLengthEncodedString [] s ++ rest).length < 2 ^ 63 →
      readLengthEncodedString (writeLengthEncodedString [] s ++ rest) =
        .ok (s, (writeLengthEncodedString [] s).length, none)) :=
  ⟨readLengthEncodedInt_write, fun _ _ slice => readLengthEncodedString_write slice⟩

/-- `protocol.OKPacket`; `Info` as the bytes of the string. -/
structure OKPacket where
  affectedRows : Nat
  lastInsertID : Nat
  statusFlags : Nat
  warnings : Nat
  info : List UInt8
  deriving DecidableEq, Repr

/-- `binary.LittleEndian.Uint16`: the first two bytes, least significant first. -/
def uint16 (b : List UInt8) : Nat :=
  leValue (b.take 2)

/-- One uppercase hexadecimal digit. -/
def hexDigit (d : Nat) : Char :=
  if d < 10 then Char.ofNat (48 + d) else Char.ofNat (55 + d)

/-- A byte formatted by the verb `%02X`. -/
def hexByte (b : UInt8) : String :=
  ⟨[hexDigit (b.toNat / 16), hexDigit (b.toNat % 16)]⟩

/-- `ParseOKPacket`; neither read's count is checked. -/
def parseOKPacket (payload : List UInt8) : Except String OKPacket :=
  if payload.length < 7 then
    .error ("OK packet too short: " ++ toString payload.length ++ " bytes")
  else if payload.headD 0 ≠ okPacket then
    .error ("not an OK packet: 0x" ++ hexByte (payload.headD 0))
  else
    let (affectedRows, n) := readLengthEncodedInt (payload.drop 1)
    let pos := 1 + n
    let (lastInsertID, n) := readLengthEncodedInt (payload.drop pos)
    let pos := pos + n
    if pos + 4 > payload.length then .error "unexpected end of OK packet"
    else
      .ok ⟨affectedRows, lastInsertID, uint16 (payload.drop pos), uint16 (payload.drop (pos + 2)),
        if pos + 4 < payload.length then payload.drop (pos + 4) else []⟩

/-- The OK packet grammar. -/
def OKPacket.Encodes (packet : OKPacket) (payload : List UInt8) : Prop :=
  packet.statusFlags < 2 ^ 16 ∧ packet.warnings < 2 ^ 16 ∧
    ∃ affected lastID : List UInt8, LengthEncoded affected packet.affectedRows ∧
      LengthEncoded lastID packet.lastInsertID ∧
      payload = okPacket :: (affected ++ lastID ++ leBytes 2 packet.statusFlags ++
        leBytes 2 packet.warnings ++ packet.info)

theorem uint16_leBytes {value : Nat} (fits : value < 2 ^ 16) (rest : List UInt8) :
    uint16 (leBytes 2 value ++ rest) = value := by
  rw [uint16, List.take_left' (length_leBytes 2 value), leValue_leBytes,
    Nat.mod_eq_of_lt (by simpa using fits)]

theorem drop_fields (first : UInt8) (affected lastID rest : List UInt8) :
    (first :: (affected ++ (lastID ++ rest))).drop (1 + affected.length + lastID.length) = rest := by
  rw [← List.drop_drop, ← List.drop_drop, List.drop_one, List.tail_cons, List.drop_left,
    List.drop_left]

theorem parseOKPacket_of_encodes {packet : OKPacket} {payload : List UInt8}
    (encodes : packet.Encodes payload) : parseOKPacket payload = .ok packet := by
  obtain ⟨status, warnings, affected, lastID, encodedAffected, encodedLastID, rfl⟩ := encodes
  have affectedPos := encodedAffected.length_pos
  have lastIDPos := encodedLastID.length_pos
  simp only [List.append_assoc]
  generalize body : leBytes 2 packet.statusFlags ++ (leBytes 2 packet.warnings ++ packet.info) = rest
  have readAffected := readLengthEncodedInt_of_lengthEncoded encodedAffected (lastID ++ rest)
  have readLastID := readLengthEncodedInt_of_lengthEncoded encodedLastID rest
  have second : (okPacket :: (affected ++ (lastID ++ rest))).drop (1 + affected.length) =
      lastID ++ rest := by
    rw [← List.drop_drop, List.drop_one, List.tail_cons, List.drop_left]
  have fields := drop_fields okPacket affected lastID rest
  simp only [parseOKPacket, List.drop_one, List.tail_cons, readAffected, second, readLastID]
  rw [← List.drop_drop 2, ← List.drop_drop 4, fields]
  subst body
  have four : (leBytes 2 packet.statusFlags ++ leBytes 2 packet.warnings).length = 4 := by simp
  rw [uint16_leBytes status, List.drop_left' (length_leBytes 2 _), uint16_leBytes warnings,
    ← List.append_assoc (leBytes 2 packet.statusFlags), List.drop_left' four]
  simp only [List.length_cons, List.length_append, length_leBytes, List.headD_cons, ne_eq,
    not_true_eq_false, if_false]
  rw [if_neg (by omega), if_neg (by omega)]
  split_ifs with more
  · rfl
  · rw [← List.length_eq_zero.mp (by omega : packet.info.length = 0)]

theorem OKPacket.Encodes.affectedRows_announced {packet : OKPacket} {first : UInt8}
    {rest : List UInt8} (encodes : packet.Encodes (okPacket :: first :: rest)) :
    ∃ n, encodedLength first = some n ∧ n + 5 ≤ rest.length + 1 := by
  obtain ⟨-, -, affected, lastID, encodedAffected, encodedLastID, shape⟩ := encodes
  obtain ⟨a, ra, rfl, announced⟩ := encodedAffected.announced
  have lastIDPos := encodedLastID.length_pos
  simp only [List.cons_append, List.cons.injEq] at shape
  obtain ⟨-, rfl, rfl⟩ := shape
  refine ⟨_, announced, ?_⟩
  simp only [List.length_cons, List.length_append, length_leBytes]
  omega

/-- `ParseOKPacket` reads a `0xfb` and a cut-short `0xfe` integer as 0 rows. -/
theorem parseOKPacket_accepts_outside_grammar :
    parseOKPacket [0x00, 0xfb, 0, 0, 0, 0, 0] = .ok ⟨0, 0, 0, 0, []⟩ ∧
      (¬∃ packet : OKPacket, packet.Encodes [0x00, 0xfb, 0, 0, 0, 0, 0]) ∧
    parseOKPacket [0x00, 0xfe, 1, 2, 3, 4, 5] = .ok ⟨0, 0, 510, 770, [4, 5]⟩ ∧
      ¬∃ packet : OKPacket, packet.Encodes [0x00, 0xfe, 1, 2, 3, 4, 5] := by
  refine ⟨rfl, ?_, rfl, ?_⟩
  · rintro ⟨packet, encodes⟩
    obtain ⟨n, announced, -⟩ := encodes.affectedRows_announced
    cases announced
  · rintro ⟨packet, encodes⟩
    obtain ⟨n, announced, fits⟩ := encodes.affectedRows_announced
    cases announced
    simp at fits

/-! ## ERR and EOF packets -/

/-- `protocol.ERRPacket`; the SQL state and the message as the bytes of their strings. -/
structure ERRPacket where
  errorCode : Nat
  sqlState : List UInt8
  errorMessage : List UInt8
  deriving DecidableEq, Repr

/-- The SQL state marker `'#'`. -/
def sqlStateMarker : UInt8 := 0x23

/-- `ParseERRPacket`: with nine bytes, every slice it takes is in range. -/
def parseERRPacket (payload : List UInt8) : Except String ERRPacket :=
  if payload.length < 9 then
    .error ("ERR packet too short: " ++ toString payload.length ++ " bytes")
  else if payload.headD 0 ≠ errPacket then
    .error ("not an ERR packet: 0x" ++ hexByte (payload.headD 0))
  else
    let errorCode := uint16 (payload.drop 1)
    if payload.getD 3 0 = sqlStateMarker then
      .ok ⟨errorCode, (payload.drop 4).take 5, payload.drop 9⟩
    else .ok ⟨errorCode, [], payload.drop 3⟩

/-- An ERR packet as a server of protocol 4.1 writes it. -/
def ERRPacket.encode (packet : ERRPacket) : List UInt8 :=
  errPacket :: (leBytes 2 packet.errorCode ++
    sqlStateMarker :: (packet.sqlState ++ packet.errorMessage))

/-- An ERR packet as a server before protocol 4.1 writes it: no SQL state. -/
def ERRPacket.encodeWithoutState (packet : ERRPacket) : List UInt8 :=
  errPacket :: (leBytes 2 packet.errorCode ++ packet.errorMessage)

structure EOFPacket where
  warnings : Nat
  statusFlags : Nat
  deriving DecidableEq, Repr

def parseEOFPacket (payload : List UInt8) : Except String EOFPacket :=
  if payload.length < 5 then
    .error ("EOF packet too short: " ++ toString payload.length ++ " bytes")
  else if payload.headD 0 ≠ eofPacket then
    .error ("not an EOF packet: 0x" ++ hexByte (payload.headD 0))
  else .ok ⟨uint16 (payload.drop 1), uint16 (payload.drop 3)⟩

/-- An EOF packet as a server writes it. -/
def EOFPacket.encode (packet : EOFPacket) : List UInt8 :=
  eofPacket :: (leBytes 2 packet.warnings ++ leBytes 2 packet.statusFlags)

theorem leBytes_two (n : Nat) : leBytes 2 n = [UInt8.ofNat n, UInt8.ofNat (n / 256)] :=
  rfl

theorem parseERRPacket_encode {packet : ERRPacket} (fits : packet.errorCode < 2 ^ 16)
    (state : packet.sqlState.length = 5) : parseERRPacket packet.encode = .ok packet := by
  obtain ⟨code, sqlState, message⟩ := packet
  dsimp only at fits state
  have errorCode := uint16_leBytes fits (sqlStateMarker :: (sqlState ++ message))
  simp only [leBytes_two, List.cons_append, List.nil_append] at errorCode
  have long : ¬(sqlState ++ message).length + 4 < 9 := by
    rw [List.length_append, state]
    omega
  simp only [parseERRPacket, ERRPacket.encode, leBytes_two, List.cons_append, List.nil_append,
    List.length_cons, long, if_false, List.headD_cons, ne_eq, not_true_eq_false, List.drop_succ_cons,
    List.drop_zero, errorCode, List.getD_cons_succ, List.getD_cons_zero, if_true,
    List.take_left' state, List.drop_left' state]

theorem parseERRPacket_encodeWithoutState {packet : ERRPacket} (fits : packet.errorCode < 2 ^ 16)
    (noState : packet.sqlState = []) (long : 6 ≤ packet.errorMessage.length)
    (unmarked : packet.errorMessage.head? ≠ some sqlStateMarker) :
    parseERRPacket packet.encodeWithoutState = .ok packet := by
  obtain ⟨code, sqlState, message⟩ := packet
  dsimp only at fits noState long unmarked
  subst noState
  obtain _ | ⟨first, rest⟩ := message
  · simp at long
  have errorCode := uint16_leBytes fits (first :: rest)
  simp only [leBytes_two, List.cons_append, List.nil_append] at errorCode
  have notMarked : first ≠ sqlStateMarker := fun marked => unmarked (by rw [marked]; rfl)
  have longEnough : ¬rest.length + 1 + 3 < 9 := by
    simp only [List.length_cons] at long
    omega
  simp only [parseERRPacket, ERRPacket.encodeWithoutState, leBytes_two, List.cons_append,
    List.nil_append, List.length_cons, longEnough, if_false, List.headD_cons, ne_eq,
    not_true_eq_false, List.drop_succ_cons, List.drop_zero, errorCode, List.getD_cons_succ,
    List.getD_cons_zero, notMarked]

theorem parseERRPacket_encodeWithoutState_iff {packet : ERRPacket}
    (fits : packet.errorCode < 2 ^ 16) (noState : packet.sqlState = []) :
    parseERRPacket packet.encodeWithoutState = .ok packet ↔
      6 ≤ packet.errorMessage.length ∧ packet.errorMessage.head? ≠ some sqlStateMarker := by
  refine ⟨fun parsed => ?_, fun ⟨long, unmarked⟩ =>
    parseERRPacket_encodeWithoutState fits noState long unmarked⟩
  obtain ⟨code, sqlState, _ | ⟨first, rest⟩⟩ := packet
  · simp [parseERRPacket, ERRPacket.encodeWithoutState, leBytes_two] at parsed
  dsimp only at noState ⊢
  subst noState
  simp only [parseERRPacket, ERRPacket.encodeWithoutState, leBytes_two, List.cons_append,
    List.nil_append, List.length_cons, List.getD_cons_succ, List.getD_cons_zero] at parsed
  split_ifs at parsed with short _ marked
  · have state := congrArg ERRPacket.sqlState (Except.ok.inj parsed)
    simp only [List.drop_succ_cons, List.drop_zero, List.take_eq_nil_iff] at state
    rcases state with five | empty
    · cases five
    · subst empty
      simp at short
  · exact ⟨by simp only [List.length_cons]; omega, by simpa using marked⟩

theorem parseEOFPacket_encode {packet : EOFPacket} (warnings : packet.warnings < 2 ^ 16)
    (status : packet.statusFlags < 2 ^ 16) : parseEOFPacket packet.encode = .ok packet := by
  obtain ⟨warningCount, flags⟩ := packet
  dsimp only at warnings status
  have readWarnings := uint16_leBytes warnings (leBytes 2 flags)
  have readFlags := uint16_leBytes status []
  simp only [leBytes_two, List.cons_append, List.nil_append, List.append_nil]
    at readWarnings readFlags
  simp only [parseEOFPacket, EOFPacket.encode, leBytes_two, List.cons_append, List.nil_append,
    List.length_cons, List.length_nil, Nat.reduceAdd, Nat.lt_irrefl, List.headD_cons, ne_eq,
    not_true_eq_false, if_false, List.drop_succ_cons, List.drop_zero, readWarnings, readFlags]

/-- The ERR and EOF parsers read back what their encoders write. -/
theorem parseERRPacket_roundTrip (err : ERRPacket) (eof : EOFPacket)
    (fits : err.errorCode < 2 ^ 16) (warnings : eof.warnings < 2 ^ 16)
    (status : eof.statusFlags < 2 ^ 16) :
    (err.sqlState.length = 5 →
        parseERRPacket err.encode = .ok err ∧ isERRPacket err.encode = true) ∧
      (err.sqlState = [] →
        (parseERRPacket err.encodeWithoutState = .ok err ↔
          6 ≤ err.errorMessage.length ∧ err.errorMessage.head? ≠ some sqlStateMarker) ∧
        (6 ≤ err.errorMessage.length → isERRPacket err.encodeWithoutState = true)) ∧
      parseEOFPacket eof.encode = .ok eof ∧ isEOFPacket eof.encode = true := by
  refine ⟨fun state => ⟨parseERRPacket_encode fits state, ?_⟩,
    fun noState => ⟨parseERRPacket_encodeWithoutState_iff fits noState, fun long => ?_⟩,
    parseEOFPacket_encode warnings status, ?_⟩
  · simp [isERRPacket, ERRPacket.encode]
  · simp only [isERRPacket, ERRPacket.encodeWithoutState, List.length_cons, List.length_append,
      length_leBytes, List.head?_cons]
    rw [if_neg (by omega)]
    decide
  · simp [isEOFPacket, EOFPacket.encode]

def syntaxError : ERRPacket :=
  ⟨1064, [0x34, 0x32, 0x30, 0x30, 0x30], [0x53, 0x79, 0x6e, 0x74, 0x61, 0x78]⟩

def autocommitEOF : EOFPacket := ⟨0, 2⟩

theorem parseERRPacket_roundTrip_syntaxError :
    parseERRPacket syntaxError.encode = .ok syntaxError ∧
      parseEOFPacket autocommitEOF.encode = .ok autocommitEOF :=
  have roundTrip := parseERRPacket_roundTrip syntaxError autocommitEOF (by decide) (by decide)
    (by decide)
  ⟨(roundTrip.1 rfl).1, roundTrip.2.2.1⟩

end TransisiDB.Protocol
