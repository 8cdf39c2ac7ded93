import TransisiDB.Sql.Parser

set_option autoImplicit false

/-!
# The currency detector

`internal/detector`: `NewDetector`, `Detect` and its four strategies, `isMonetaryColumn` and
`toInt64`.  The detector reads the `map[string]interface{}` of `ParsedQuery.Values`: a lookup
reads `values`, and a `range` over the map visits `keys` in the order Go picks.  A
confidence is the exact value of its `float64`.

* `CurrencyDetector.detect_perm`: the result does not depend on the order in which Go's
  `range` visits the keys, so the random iteration order makes detection no less
  deterministic.
* `CurrencyDetector.detectAuto_of_explicit`: under `AUTO` a currency field that reads `IDR`
  or `IDN` decides alone.
-/

namespace TransisiDB.Detector

open TransisiDB.Sql

/-- `unicode.ToLower` as far as it decides a comparison with an ASCII text. -/
def toLowerRune (c : Char) : Char :=
  if c = Char.ofNat 0x212A then 'k' else if c = Char.ofNat 0x130 then 'i' else c.toLower

def toLower (s : String) : String :=
  ⟨s.data.map toLowerRune⟩

def contains (s substr : String) : Bool :=
  s.data.tails.any fun tail => substr.data.isPrefixOf tail

def hasSuffix (s suffix : String) : Bool :=
  suffix.data.isSuffixOf s.data

/-- `fmt.Sscanf(text, "%d", &i)` into an `int64`; `none` on an error. -/
def sscanInt (text : String) : Option Int :=
  (skipSpace text.data).bind fun cs =>
    let (negative, rest) := takeSign cs
    let digits := rest.takeWhile Char.isDigit
    let value : Int := if negative then -(digitsValue digits : Int) else digitsValue digits
    if digits = [] then none
    else if -2 ^ 63 ≤ value ∧ value < 2 ^ 63 then some value
    else none

/-- Why `toInt64` or `toFloat64` fails. -/
inductive NumberError where
  | scan
  | cannotConvert (typeName target : String)
  deriving DecidableEq, Repr

/-- The name `%T` prints for the dynamic type of a value. -/
def typeName : Value → String
  | .string _ => "string"
  | .bool _ => "bool"
  | .nil => "<nil>"

/-- `toInt64` of package `detector`, whose body `toInt64` of package `dualwrite` repeats. -/
def toInt64 : Value → Except NumberError Int
  | .string text =>
      match sscanInt text with
      | some i => .ok i
      | none => .error .scan
  | value => .error (.cannotConvert (typeName value) "int64")

/-- The keywords of `isMonetaryColumn`. -/
def monetaryKeywords : List String :=
  ["amount", "price", "fee", "total", "cost", "balance", "payment", "charge", "rate",
    "grand_total", "subtotal", "tax", "discount"]

def isMonetaryColumn (name : String) : Bool :=
  monetaryKeywords.any fun keyword => contains (toLower name) keyword

/-- `CurrencyType`: the detector returns only its two constants. -/
inductive Currency where
  | idr
  | idn
  deriving DecidableEq, Repr

structure DetectionResult where
  currency : Currency
  confidence : ℚ
  detectedBy : String
  ambiguityWarning : Bool

structure DetectorConfig where
  method : String
  thresholdValue : Int
  currencyField : String

structure CurrencyDetector where
  method : String
  thresholdValue : Int
  currencyField : String

/-- `NewDetector`: `AUTO`, a threshold of 1000000 and the field `currency` by default. -/
def newDetector : Option DetectorConfig → CurrencyDetector
  | none => ⟨"AUTO", 1000000, "currency"⟩
  | some cfg =>
      ⟨cfg.method, if cfg.thresholdValue = 0 then 1000000 else cfg.thresholdValue,
        if cfg.currencyField = "" then "currency" else cfg.currencyField⟩

/-- One iteration of the counting loop of `detectByFieldName`, on `(idnCount, idrCount)`. -/
def countColumn (counts : Nat × Nat) (colName : String) : Nat × Nat :=
  if !isMonetaryColumn colName then counts
  else if hasSuffix (toLower colName) "_idn" then (counts.1 + 1, counts.2)
  else (counts.1, counts.2 + 1)

/-- The counting loop of `detectByFieldName`. -/
def countByFieldName (keys : List String) : Nat × Nat :=
  keys.foldl countColumn (0, 0)

/-- `detectByFieldName`, which reads no field of the detector. -/
def detectByFieldName (keys : List String) : Except String DetectionResult :=
  let (idnCount, idrCount) := countByFieldName keys
  if idnCount > 0 ∧ idrCount = 0 then .ok ⟨.idn, 9 / 10, "FIELD_NAME", false⟩
  else if idrCount > 0 ∧ idnCount = 0 then .ok ⟨.idr, 9 / 10, "FIELD_NAME", false⟩
  else .ok ⟨.idr, 3 / 10, "FIELD_NAME", true⟩

/-- A monetary column with the suffix `_idn`. -/
def idnColumn (colName : String) : Bool :=
  isMonetaryColumn colName && hasSuffix (toLower colName) "_idn"

/-- A monetary column without the suffix `_idn`. -/
def idrColumn (colName : String) : Bool :=
  isMonetaryColumn colName && !hasSuffix (toLower colName) "_idn"

theorem foldl_countColumn (keys : List String) (counts : Nat × Nat) :
    keys.foldl countColumn counts =
      (counts.1 + keys.countP idnColumn, counts.2 + keys.countP idrColumn) := by
  induction keys generalizing counts with
  | nil => rfl
  | cons colName rest inductionHypothesis =>
      rw [List.foldl_cons, inductionHypothesis]
      simp only [countColumn, idnColumn, idrColumn, List.countP_cons]
      by_cases monetary : isMonetaryColumn colName = true <;>
        by_cases suffixed : hasSuffix (toLower colName) "_idn" = true <;>
        simp [monetary, suffixed] <;> omega

theorem countByFieldName_eq (keys : List String) :
    countByFieldName keys = (keys.countP idnColumn, keys.countP idrColumn) := by
  simp [countByFieldName, foldl_countColumn]

namespace CurrencyDetector

variable (d : CurrencyDetector) (keys : List String) (values : Values)

/-- A monetary column whose value reads as a non-zero integer below the threshold. -/
def belowThreshold (colName : String) : Bool :=
  isMonetaryColumn colName &&
    match (values colName).map toInt64 with
    | some (.ok numValue) => numValue ≠ 0 && numValue < d.thresholdValue
    | _ => false

def detectExplicit : Except String DetectionResult :=
  match values d.currencyField with
  | none => .error ("currency field '" ++ d.currencyField ++ "' not found in columns")
  | some (.string text) =>
      let currencyStr := toUpper (trimSpace text)
      if currencyStr = "IDR" then .ok ⟨.idr, 1, "EXPLICIT", false⟩
      else if currencyStr = "IDN" then .ok ⟨.idn, 1, "EXPLICIT", false⟩
      else .error ("invalid currency value: " ++ currencyStr ++ " (expected IDR or IDN)")
  | some _ => .error "currency field is not a string"

/-- `detectByValueRange`, the `range` visiting `keys` in order. -/
def detectByValueRange : List String → Except String DetectionResult
  | [] => .ok ⟨.idr, 7 / 10, "VALUE_RANGE", false⟩
  | colName :: rest =>
      if !isMonetaryColumn colName then detectByValueRange rest
      else
        match (values colName).map toInt64 with
        | some (.ok numValue) =>
            if numValue = 0 then detectByValueRange rest
            else if numValue < d.thresholdValue then .ok ⟨.idn, 7 / 10, "VALUE_RANGE", false⟩
            else detectByValueRange rest
        | _ => detectByValueRange rest

def detectAuto : Except String DetectionResult :=
  match d.detectExplicit values with
  | .ok result => .ok result
  | .error _ =>
      match detectByFieldName keys, d.detectByValueRange values keys with
      | .error _, .error _ => .error "auto-detection failed: no monetary columns found"
      | .error _, .ok valueResult => .ok valueResult
      | .ok fieldResult, .error _ => .ok fieldResult
      | .ok fieldResult, .ok valueResult =>
          if fieldResult.currency = valueResult.currency then
            .ok ⟨fieldResult.currency, (fieldResult.confidence + valueResult.confidence) / 2,
              "AUTO", false⟩
          else if fieldResult.confidence > valueResult.confidence then
            .ok ⟨fieldResult.currency, fieldResult.confidence, "AUTO", true⟩
          else .ok ⟨valueResult.currency, valueResult.confidence, "AUTO", true⟩

def detect : Except String DetectionResult :=
  if d.method = "EXPLICIT" then d.detectExplicit values
  else if d.method = "FIELD_NAME" then detectByFieldName keys
  else if d.method = "VALUE_RANGE" then d.detectByValueRange values keys
  else if d.method = "AUTO" then d.detectAuto keys values
  else .error ("unknown detection method: " ++ d.method)

theorem detectByValueRange_eq :
    d.detectByValueRange values keys =
      .ok (if keys.any (d.belowThreshold values) then ⟨.idn, 7 / 10, "VALUE_RANGE", false⟩
        else ⟨.idr, 7 / 10, "VALUE_RANGE", false⟩) := by
  induction keys with
  | nil => rfl
  | cons colName rest inductionHypothesis =>
      simp only [detectByValueRange, List.any_cons, belowThreshold]
      by_cases monetary : isMonetaryColumn colName = true
      · simp only [monetary, Bool.not_true, Bool.true_and, Bool.false_eq_true, if_false]
        split
        · rename_i numValue _
          by_cases zero : numValue = 0
          · simpa [zero] using inductionHypothesis
          · by_cases below : numValue < d.thresholdValue <;> simp [zero, below, inductionHypothesis]
        · simpa using inductionHypothesis
      · simpa [monetary] using inductionHypothesis

/-- `Detect` does not depend on the order a `range` visits the values in. -/
theorem detect_perm {keys other : List String} (perm : keys.Perm other) :
    d.detect keys values = d.detect other values := by
  have sameAny : keys.any (d.belowThreshold values) = other.any (d.belowThreshold values) := by
    rw [Bool.eq_iff_iff, List.any_eq_true, List.any_eq_true]
    exact ⟨fun ⟨key, member, below⟩ => ⟨key, perm.mem_iff.mp member, below⟩,
      fun ⟨key, member, below⟩ => ⟨key, perm.mem_iff.mpr member, below⟩⟩
  simp only [detect, detectAuto, detectByFieldName, countByFieldName_eq, detectByValueRange_eq,
    perm.countP_eq, sameAny]

theorem detect_perm_defaults :
    let values : Values := fun col => if col = "total_amount" then some (.string "5000") else none
    ["total_amount", "price"].Perm ["price", "total_amount"] ∧
      (newDetector none).detect ["total_amount", "price"] values =
        (newDetector none).detect ["price", "total_amount"] values := by
  intro values
  exact ⟨List.Perm.swap _ _ _, detect_perm _ values (List.Perm.swap _ _ _)⟩

theorem detect_of_auto (auto : d.method = "AUTO") : d.detect keys values = d.detectAuto keys values := by
  rw [detect, auto]
  rfl

theorem detectAuto_of_explicit {result : DetectionResult}
    (explicit : d.detectExplicit values = .ok result) : d.detectAuto keys values = .ok result := by
  simp [detectAuto, explicit]

end CurrencyDetector

end TransisiDB.Detector
