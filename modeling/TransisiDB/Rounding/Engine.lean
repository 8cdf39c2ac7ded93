import Mathlib.Data.Rat.Floor

set_option autoImplicit false

/-!
# The rounding engine

`internal/rounding/engine.go`.  A `float64` is its exact rational value, so `math.Floor`,
`math.Ceil`, `math.Round` and `math.Trunc` act on rationals, and the constant `1e-9` of
`bankersRound` is `1 / 10 ^ 9`.
-/

namespace TransisiDB

/-- `math.Round`: the nearest integer, halves away from zero. -/
def goRound (x : ℚ) : ℤ :=
  if x < 0 then -⌊-x + 1 / 2⌋ else ⌊x + 1 / 2⌋

/-- `math.Trunc`: the integer part, toward zero. -/
def goTrunc (x : ℚ) : ℤ :=
  if x < 0 then -⌊-x⌋ else ⌊x⌋

/-- `rounding.Engine`: a strategy name and a precision. -/
structure Engine where
  strategy : String
  precision : Int

namespace Engine

variable (e : Engine)

/-- `math.Pow(10, float64(e.precision))`. -/
def multiplier : ℚ :=
  10 ^ e.precision

/-- `Engine.bankersRound`: halves within `1e-9` go to the even neighbour. -/
def bankersRound (value : ℚ) : ℚ :=
  let adjusted := value * e.multiplier
  let floor := ⌊adjusted⌋
  let ceil := ⌈adjusted⌉
  let fraction := adjusted - floor
  let epsilon : ℚ := 1 / 10 ^ 9
  if fraction < 1 / 2 - epsilon then floor / e.multiplier
  else if fraction > 1 / 2 + epsilon then ceil / e.multiplier
  else if floor.tmod 2 = 0 then floor / e.multiplier
  else ceil / e.multiplier

def arithmeticRound (value : ℚ) : ℚ :=
  goRound (value * e.multiplier) / e.multiplier

/-- `Engine.noRound`: truncation at the precision. -/
def noRound (value : ℚ) : ℚ :=
  goTrunc (value * e.multiplier) / e.multiplier

/-- `Engine.Round`: an unknown strategy rounds as `BANKERS_ROUND`. -/
def round (value : ℚ) : ℚ :=
  if e.strategy = "BANKERS_ROUND" then e.bankersRound value
  else if e.strategy = "ARITHMETIC_ROUND" then e.arithmeticRound value
  else if e.strategy = "NO_ROUND" then e.noRound value
  else e.bankersRound value

def convertIDRtoIDN (idrValue ratio : Int) : ℚ :=
  e.round ((idrValue : ℚ) / ratio)

end Engine

end TransisiDB
