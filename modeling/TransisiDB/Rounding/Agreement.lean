import TransisiDB.Rounding.Engine
import TransisiDB.Rounding.Decimal

set_option autoImplicit false

/-!
# Banker's rounding near a half

`Engine.bankersRound` in closed form, by the integer it picks for the scaled value, and the
value whose fraction lies within `1e-9` of a half, where the parity of the floor decides and
`roundAt`, the rounding the specification describes, rounds to the nearer integer.
-/

namespace TransisiDB

namespace Engine

/-- The integer `bankersRound` picks for the scaled value `adjusted`. -/
def bankersInteger (adjusted : ℚ) : ℤ :=
  if Int.fract adjusted < 1 / 2 - 1 / 10 ^ 9 then ⌊adjusted⌋
  else if Int.fract adjusted > 1 / 2 + 1 / 10 ^ 9 then ⌈adjusted⌉
  else if ⌊adjusted⌋.tmod 2 = 0 then ⌊adjusted⌋
  else ⌈adjusted⌉

variable (e : Engine)

theorem bankersRound_eq (value : ℚ) :
    e.bankersRound value = bankersInteger (value * e.multiplier) / e.multiplier := by
  simp only [bankersRound, bankersInteger, Int.fract]
  split_ifs <;> rfl

theorem multiplier_eq {p : Nat} (precision : e.precision = p) : e.multiplier = 10 ^ p := by
  simp [multiplier, precision]

theorem bankersInteger_intCast (n : ℤ) : bankersInteger n = n := by
  norm_num [bankersInteger]

theorem bankersRound_intCast {p : Nat} (precision : e.precision = p) (n : ℤ) :
    e.bankersRound n = n := by
  have scaled : (n : ℚ) * 10 ^ p = ((n * 10 ^ p : ℤ) : ℚ) := by push_cast; ring
  rw [bankersRound_eq, multiplier_eq e precision, scaled, bankersInteger_intCast]
  push_cast
  field_simp

end Engine

/-- `BANKERS_ROUND` rounds `0.5000000005` down to 0 at precision 0. -/
theorem bankersRound_misrounds_near_half :
    (⟨"BANKERS_ROUND", 0⟩ : Engine).convertIDRtoIDN 1000000001 2000000000 = 0 ∧
      roundAt .bankersRound 0 ((1000000001 : ℤ) / (2000000000 : ℤ) : ℚ) = 1 := by
  have floorZero : ⌊(1000000001 : ℚ) / 2000000000⌋ = 0 := by
    rw [Int.floor_eq_zero_iff]
    norm_num
  have positive : |(1000000001 : ℚ) / 2000000000| = 1000000001 / 2000000000 :=
    abs_of_pos (by norm_num)
  constructor
  · norm_num [Engine.convertIDRtoIDN, Engine.round, Engine.bankersRound, Engine.multiplier,
      floorZero]
  · norm_num [roundAt, roundHalfEven, floorZero, positive, Int.fract]

end TransisiDB
