import Mathlib.Data.List.Basic
import Mathlib.Algebra.Group.Nat.Basic

set_option autoImplicit false

/-!
# Little-endian integers

`binary.LittleEndian.PutUint16` and `PutUint64`, the three bytes `byte(n), byte(n >> 8),
byte(n >> 16)` of the packet header and of `WriteLengthEncodedInt`, and the reads back:
`leBytes width n` is `n` in `width` bytes, least significant first, and `leValue` the number
a list of bytes stands for.  Reading back what was written gives `n` modulo `256 ^ width`.
-/

namespace TransisiDB.Protocol

/-- `n` in `width` bytes, least significant first; `byte(x)` keeps `x % 256`. -/
def leBytes : Nat → Nat → List UInt8
  | 0, _ => []
  | width + 1, n => UInt8.ofNat n :: leBytes width (n / 256)

/-- The number little-endian bytes stand for. -/
def leValue : List UInt8 → Nat
  | [] => 0
  | b :: rest => b.toNat + 256 * leValue rest

@[simp]
theorem length_leBytes (width n : Nat) : (leBytes width n).length = width := by
  induction width generalizing n with
  | zero => rfl
  | succ width inductionHypothesis => simp [leBytes, inductionHypothesis]

theorem toNat_ofNat_byte (n : Nat) : (UInt8.ofNat n).toNat = n % 256 := rfl

@[simp]
theorem leValue_leBytes (width n : Nat) : leValue (leBytes width n) = n % 256 ^ width := by
  induction width generalizing n with
  | zero => simp [leBytes, leValue, Nat.mod_one]
  | succ width inductionHypothesis =>
      rw [leBytes, leValue, inductionHypothesis, toNat_ofNat_byte, Nat.pow_succ', Nat.mod_mul]

theorem leValue_lt (bytes : List UInt8) : leValue bytes < 256 ^ bytes.length := by
  induction bytes with
  | nil => simp [leValue]
  | cons b rest inductionHypothesis =>
      have byte : b.toNat < 256 := b.toBitVec.isLt
      rw [leValue, List.length_cons, Nat.pow_succ']
      omega

end TransisiDB.Protocol
