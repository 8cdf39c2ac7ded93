import Mathlib.Data.Rat.Floor

set_option autoImplicit false

/-!
# Text and numbers

The Go library conversions the proxy applies to SQL text, with `float64` arithmetic taken as
exact rational arithmetic: `strings.TrimSpace`, `strings.ToUpper`,
`fmt.Sscanf(text, "%f", &f)` and `fmt.Sprintf("%.Nf", x)`.

`sscanFloat` reads the decimal syntax of `fmt`'s float scanner (sign, digits, fraction,
decimal `e` or binary `p` exponent).  A result Go would give as NaN or an infinity, a
hexadecimal float, and digits separated by `_`, which `fmt` reads, are scan errors here.

The reference rounding `roundAt` is the rounding the specification asks of the rounding
engine, against which the engine and the rewriter are compared.
-/

namespace TransisiDB

/-- `unicode.IsSpace`, which `strings.TrimSpace` and `fmt`'s scanner both use. -/
def isGoSpace (c : Char) : Bool :=
  c = '\t' || c = '\n' || c = '\x0b' || c = '\x0c' || c = '\r' || c = ' ' ||
    c = '\x85' || c = '\xa0' || c = ' ' || (' ' ≤ c && c ≤ ' ') ||
    c = ' ' || c = ' ' || c = ' ' || c = ' ' || c = '　'

def trimSpace (s : String) : String :=
  ⟨((s.data.dropWhile isGoSpace).reverse.dropWhile isGoSpace).reverse⟩

/-- `unicode.ToUpper` as far as it decides a comparison with an ASCII text. -/
def toUpperRune (c : Char) : Char :=
  if c = 'ı' then 'I' else if c = 'ſ' then 'S' else c.toUpper

def toUpper (s : String) : String :=
  ⟨s.data.map toUpperRune⟩

/-! ## `fmt.Sscanf` with the `%f` verb -/

/-- `(-1)^negative * mantissa * 10^exp10 * 2^exp2`, as a scanned token denotes it. -/
structure Decimal where
  negative : Bool
  mantissa : Nat
  exp10 : Int
  exp2 : Int
  deriving DecidableEq, Repr

/-- The exact value of a scanned number. -/
def Decimal.toRat (d : Decimal) : ℚ :=
  (if d.negative then -1 else 1) * d.mantissa * (10 : ℚ) ^ d.exp10 * (2 : ℚ) ^ d.exp2

/-- Digits and underscores, which `floatToken` accepts alike. -/
def isTokenDigit (c : Char) : Bool :=
  c.isDigit || c = '_'

/-- The value of a string of decimal digits. -/
def digitsValue (digits : List Char) : Nat :=
  digits.foldl (fun value c => 10 * value + (c.toNat - '0'.toNat)) 0

/-- `fmt`'s `SkipSpace` for `Sscanf`: a newline before the token is an error. -/
def skipSpace : List Char → Option (List Char)
  | [] => some []
  | c :: rest =>
      if c = '\n' then none else if isGoSpace c then skipSpace rest else some (c :: rest)

theorem isGoSpace_of_isDigit {c : Char} (digit : c.isDigit) : isGoSpace c = false := by
  simp only [Char.isDigit, Bool.and_eq_true, decide_eq_true_eq] at digit
  have bounds : 48 ≤ c.toNat ∧ c.toNat ≤ 57 := ⟨digit.1, digit.2⟩
  have differs : ∀ d : Char, (d.toNat < 48 ∨ 57 < d.toNat) → (c = d) = False :=
    fun d outside => eq_false fun same => by subst same; omega
  have below : ∀ d : Char, 57 < d.toNat → (d ≤ c) = False :=
    fun d above => eq_false (by
      rw [Char.le_def]
      exact Nat.not_le.mpr (Nat.lt_of_le_of_lt bounds.2 above))
  simp (disch := decide) [isGoSpace, differs, below]

theorem skipSpace_cons {c : Char} (notNewline : c ≠ '\n') (notSpace : isGoSpace c = false)
    (rest : List Char) : skipSpace (c :: rest) = some (c :: rest) := by
  simp [skipSpace, notNewline, notSpace]

/-- An optional sign, as `floatToken` accepts it. -/
def takeSign : List Char → Bool × List Char
  | '-' :: rest => (true, rest)
  | '+' :: rest => (false, rest)
  | cs => (false, cs)

theorem takeSign_of_isDigit {c : Char} (digit : c.isDigit) (rest : List Char) :
    takeSign (c :: rest) = (false, c :: rest) := by
  unfold takeSign
  split <;> simp_all

/-- `strconv.Atoi` on the exponent after a binary `p`: sign, then at least one digit. -/
def parseExponent (cs : List Char) : Option Int :=
  let (negative, digits) := takeSign cs
  if digits ≠ [] ∧ digits.all Char.isDigit then
    some (if negative then -(digitsValue digits : Int) else digitsValue digits)
  else none

/-- The token `floatToken` reads, parsed by `convertFloat`; `none` is a scan error. -/
def scanDecimal (cs : List Char) : Option Decimal :=
  let (negative, rest) := takeSign cs
  match rest with
  | c :: _ =>
      if c = 'n' ∨ c = 'N' ∨ c = 'i' ∨ c = 'I' then none
      else if rest.take 2 = ['0', 'x'] ∨ rest.take 2 = ['0', 'X'] then none
      else
        let (whole, rest) := rest.span isTokenDigit
        let (fraction, rest) := match rest with
          | '.' :: tail => tail.span isTokenDigit
          | _ => ([], rest)
        let digits := whole ++ fraction
        if digits = [] ∨ '_' ∈ digits then none
        else
          let mantissa := digitsValue digits
          match rest with
          | marker :: tail =>
              let (exponentNegative, exponentRest) := takeSign tail
              let (exponentDigits, _) := exponentRest.span isTokenDigit
              let exponentText :=
                (if exponentNegative then ['-'] else []) ++ exponentDigits
              if marker = 'e' ∨ marker = 'E' then
                if exponentDigits = [] ∨ '_' ∈ exponentDigits then none
                else
                  let exponent := digitsValue exponentDigits
                  some ⟨negative, mantissa,
                    (if exponentNegative then -(exponent : Int) else exponent) - fraction.length,
                    0⟩
              else if marker = 'p' then
                (parseExponent exponentText).map fun exponent =>
                  ⟨negative, mantissa, -(fraction.length : Int), exponent⟩
              else if marker = 'P' then none
              else some ⟨negative, mantissa, -(fraction.length : Int), 0⟩
          | [] => some ⟨negative, mantissa, -(fraction.length : Int), 0⟩
  | [] => none

/-- `fmt.Sscanf(text, "%f", &f)`; `none` on an error. -/
def sscanFloat (text : String) : Option ℚ :=
  ((skipSpace text.data).bind scanDecimal).map Decimal.toRat

/-! ## `fmt.Sprintf` with the `%.Nf` verb -/

/-- Round half to even, to an integer. -/
def roundHalfEven (x : ℚ) : ℤ :=
  let floor := ⌊x⌋
  if x - floor < 1 / 2 then floor
  else if 1 / 2 < x - floor then floor + 1
  else if floor % 2 = 0 then floor else floor + 1

@[simp]
theorem roundHalfEven_intCast (n : ℤ) : roundHalfEven n = n := by
  simp [roundHalfEven]

@[simp]
theorem roundHalfEven_ofNat (n : Nat) [n.AtLeastTwo] :
    roundHalfEven (no_index (OfNat.ofNat n)) = OfNat.ofNat n := by
  simpa using roundHalfEven_intCast (OfNat.ofNat n)

/-- The text of `scaled / 10 ^ precision` with `precision` digits after the point. -/
def fixedPoint (precision scaled : Nat) : String :=
  let digits := (Nat.repr scaled).data
  let padded := List.replicate (precision + 1 - digits.length) '0' ++ digits
  let whole := padded.take (padded.length - precision)
  let fraction := padded.drop (padded.length - precision)
  ⟨whole⟩ ++ (if precision = 0 then "" else "." ++ ⟨fraction⟩)

/-- `fmt.Sprintf("%.Nf", x)` on the exact value of `x`. -/
def sprintfFixed (precision : Nat) (x : ℚ) : String :=
  (if x < 0 then "-" else "") ++
    fixedPoint precision (roundHalfEven (|x| * 10 ^ precision)).natAbs

@[simp]
theorem sprintfFixed_natCast (precision n : Nat) :
    sprintfFixed precision n = fixedPoint precision (n * 10 ^ precision) := by
  have scaled : |(n : ℚ)| * 10 ^ precision = ((n * 10 ^ precision : Nat) : ℤ) := by
    push_cast; rw [abs_of_nonneg (Nat.cast_nonneg n)]
  simp only [sprintfFixed, scaled, roundHalfEven_intCast, Int.natAbs_ofNat,
    show ¬(n : ℚ) < 0 from not_lt.mpr (Nat.cast_nonneg n), if_false, String.empty_append]

@[simp]
theorem sprintfFixed_ofNat (precision n : Nat) [n.AtLeastTwo] :
    sprintfFixed precision (no_index (OfNat.ofNat n)) =
      fixedPoint precision (OfNat.ofNat n * 10 ^ precision) := by
  simpa using sprintfFixed_natCast precision (OfNat.ofNat n)

@[simp]
theorem sprintfFixed_zero (precision : Nat) :
    sprintfFixed precision 0 = fixedPoint precision 0 := by
  simpa using sprintfFixed_natCast precision 0

/-! ## Reference rounding -/

/-- The three rounding modes of the configuration. -/
inductive RoundingMode where
  | bankersRound
  | arithmeticRound
  | noRound
  deriving DecidableEq, Repr

/-- The mode a `RoundingStrategy` names; the engine reads any other as `BANKERS_ROUND`. -/
def RoundingMode.ofStrategy (strategy : String) : RoundingMode :=
  if strategy = "ARITHMETIC_ROUND" then .arithmeticRound
  else if strategy = "NO_ROUND" then .noRound
  else .bankersRound

/-- Rounding to `precision` digits as the specification defines it, on the magnitude. -/
def roundAt (mode : RoundingMode) (precision : Nat) (x : ℚ) : ℚ :=
  let magnitude := |x| * 10 ^ precision
  let rounded : ℤ := match mode with
    | .bankersRound => roundHalfEven magnitude
    | .arithmeticRound => ⌊magnitude + 1 / 2⌋
    | .noRound => ⌊magnitude⌋
  (if x < 0 then -1 else 1) * rounded / 10 ^ precision

end TransisiDB
