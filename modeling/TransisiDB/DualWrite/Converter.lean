import TransisiDB.Detector
import TransisiDB.Proxy.DualWrite
import TransisiDB.Rounding.Agreement

set_option autoImplicit false

/-!
# The bidirectional converter and the v2.0 orchestrator

`internal/dualwrite`: `NewConverter`, `DetectDirection`, `ConvertValues` with
`convertIDRtoIDN` and `convertIDNtoIDR`, `toFloat64`, and `Orchestrator.InterceptAndRewrite`,
which parses a query, asks the converter for a direction and converted values, and hands them
to `Parser.RewriteForDualWrite`.  The detector's `range` over `pq.Values` visits `keys`, an
argument of `interceptAndRewrite` like the other orders Go picks.

* `convertColumns_ok`: a successful conversion holds, for each currency column with a value,
  that value converted.
* `interceptAndRewrite_insert`: what the orchestrator forwards for an `INSERT` it rewrites.
* `interceptAndRewrite_shadow_not_divided_by_ratio`: the shadow column receives the source
  value multiplied by the ratio when the statement also sets `currency` to `IDN`, and the
  conversion of `1` when the literal is `1e6`.
-/

namespace TransisiDB.DualWrite

open TransisiDB.Sql TransisiDB.Sql.Parser TransisiDB.Detector

inductive Direction where
  | idrToIDN
  | idnToIDR
  | none
  deriving DecidableEq, Repr

/-- `config.DetectionStrategy`, which only `NewConverter` reads. -/
structure DetectionStrategy where
  method : String
  thresholdValue : Int
  explicitField : String

structure Converter where
  roundingEngine : Engine
  detector : CurrencyDetector
  config : Config

/-- `NewConverter`: `AUTO`, 1000000 and `currency`, each overridden by a set field. -/
def newConverter (cfg : Config) (strategy : DetectionStrategy) : Converter :=
  ⟨⟨cfg.conversion.roundingStrategy, cfg.conversion.precision⟩,
    newDetector (some ⟨if strategy.method ≠ "" then strategy.method else "AUTO",
      if strategy.thresholdValue > 0 then strategy.thresholdValue else 1000000,
      if strategy.explicitField ≠ "" then strategy.explicitField else "currency"⟩),
    cfg⟩

def toFloat64 : Value → Except NumberError ℚ
  | .string text =>
      match sscanFloat text with
      | some f => .ok f
      | none => .error .scan
  | value => .error (.cannotConvert (typeName value) "float64")

/-- The loop both conversions share, stopping at the first error, which names its column. -/
def convertColumns (convertOne : Value → Except NumberError ℚ) (values : Values) :
    List String → Except (String × NumberError) (String → Option ℚ)
  | [] => .ok fun _ => none
  | colName :: rest =>
      match values colName with
      | none => convertColumns convertOne values rest
      | some value =>
          match convertOne value with
          | .error err => .error (colName, err)
          | .ok convertedValue =>
              (convertColumns convertOne values rest).map fun converted other =>
                if other = colName then some convertedValue else converted other

theorem convertColumns_ok {convertOne : Value → Except NumberError ℚ} {values : Values}
    {columns : List String} {converted : String → Option ℚ}
    (ran : convertColumns convertOne values columns = .ok converted) {colName : String}
    (member : colName ∈ columns) {value : Value} (found : values colName = some value) :
    ∃ convertedValue, convertOne value = .ok convertedValue ∧
      converted colName = some convertedValue := by
  induction columns generalizing converted with
  | nil => cases member
  | cons col rest inductionHypothesis =>
      simp only [convertColumns] at ran
      split at ran
      · rename_i absent
        rcases List.mem_cons.mp member with rfl | later
        · rw [found] at absent; cases absent
        · exact inductionHypothesis ran later
      · rename_i present
        split at ran
        · cases ran
        · rename_i convertedValue converts
          obtain ⟨restConverted, restRan, rfl⟩ : ∃ restConverted,
              convertColumns convertOne values rest = .ok restConverted ∧
                converted = fun other => if other = col then some convertedValue
                  else restConverted other := by
            revert ran
            cases convertColumns convertOne values rest <;> simp [Except.map, eq_comm]
          by_cases same : colName = col
          · subst same
            rw [found] at present
            cases present
            exact ⟨convertedValue, converts, by simp⟩
          · obtain ⟨result, converts, stored⟩ :=
              inductionHypothesis restRan ((List.mem_cons.mp member).resolve_left same)
            exact ⟨result, converts, by simp [same, stored]⟩

namespace Converter

variable (c : Converter)

def detectDirection (keys : List String) (pq : ParsedQuery) : Except String Direction :=
  if pq.currencyColumns.length = 0 then .ok .none
  else
    match c.detector.detect keys pq.values with
    | .error err => .error ("failed to detect currency: " ++ err)
    | .ok result =>
        match result.currency with
        | .idr => .ok .idrToIDN
        | .idn => .ok .idnToIDR

/-- `convertIDRtoIDN`: `ConvertIDRtoIDN` of the value read as an `int64`. -/
def convertIDRtoIDN (pq : ParsedQuery) : Except (String × NumberError) (String → Option ℚ) :=
  convertColumns (fun value => (toInt64 value).map fun intValue =>
    c.roundingEngine.convertIDRtoIDN intValue c.config.conversion.ratio) pq.values
    pq.currencyColumns

/-- `convertIDNtoIDR`: `Round` of the value read as a `float64`, times the ratio. -/
def convertIDNtoIDR (pq : ParsedQuery) : Except (String × NumberError) (String → Option ℚ) :=
  convertColumns (fun value => (toFloat64 value).map fun floatValue =>
    c.roundingEngine.round (floatValue * c.config.conversion.ratio)) pq.values
    pq.currencyColumns

/-- `ConvertValues`; `none` is the `nil` map of `DirectionNone`. -/
def convertValues (pq : ParsedQuery) :
    Direction → Except (String × NumberError) (Option (String → Option ℚ))
  | .none => .ok none
  | .idrToIDN => (c.convertIDRtoIDN pq).map some
  | .idnToIDR => (c.convertIDNtoIDR pq).map some

theorem detectDirection_of_explicit_idn {keys : List String} {pq : ParsedQuery}
    (detected : pq.currencyColumns ≠ []) (auto : c.detector.method = "AUTO") {text : String}
    (field : pq.values c.detector.currencyField = some (.string text))
    (idn : toUpper (trimSpace text) = "IDN") :
    c.detectDirection keys pq = .ok .idnToIDR := by
  have explicit : c.detector.detectExplicit pq.values = .ok ⟨.idn, 1, "EXPLICIT", false⟩ := by
    simp [CurrencyDetector.detectExplicit, field, idn]
  rw [detectDirection, if_neg (by simpa using detected), c.detector.detect_of_auto keys _ auto,
    c.detector.detectAuto_of_explicit keys _ explicit]

end Converter

/-- The v2.0 `Orchestrator`. -/
structure Orchestrator where
  parser : Parser
  converter : Converter

def Orchestrator.new (cfg : Config) (strategy : DetectionStrategy) : Orchestrator :=
  ⟨⟨cfg.tables⟩, newConverter cfg strategy⟩

/-- The errors of `InterceptAndRewrite`. -/
inductive InterceptError where
  | parse
  | direction (err : String)
  | values (column : String) (err : NumberError)
  deriving DecidableEq, Repr

/-- `InterceptAndRewrite` on what `sqlparser.Parse` returned (`none` for its error). -/
def Orchestrator.interceptAndRewrite [Keywords] (o : Orchestrator) (keys : List String) :
    Option Statement → Except InterceptError Parser.Rewritten
  | none => .error .parse
  | some stmt =>
      let pq := o.parser.parse stmt
      if !pq.needsTransform then .ok .original
      else
        match o.converter.detectDirection keys pq with
        | .error err => .error (.direction err)
        | .ok direction =>
            match o.converter.convertValues pq direction with
            | .error (column, err) => .error (.values column err)
            | .ok none => .ok .original
            | .ok (some convertedValues) =>
                if direction = .none then .ok .original
                else .ok (o.parser.rewriteForDualWrite pq convertedValues)

namespace Orchestrator

variable (o : Orchestrator) (keys : List String) [Keywords]

theorem interceptAndRewrite_insert {stmt : Insert} {tableConfig : TableConfig}
    (enabled : o.parser.enabledTable? stmt.table.format = some tableConfig)
    (detected : currencyColumnsOf tableConfig stmt.columns ≠ []) {direction : Direction}
    (notNone : direction ≠ .none)
    (detects : o.converter.detectDirection keys (o.parser.parse (.insert stmt)) = .ok direction)
    {converted : String → Option ℚ}
    (converts : o.converter.convertValues (o.parser.parse (.insert stmt)) direction =
      .ok (some converted)) :
    o.interceptAndRewrite keys (some (.insert stmt)) =
      .ok (.statement (.insert (rewriteInsert stmt (o.parser.parse (.insert stmt)) tableConfig
        converted))) := by
  obtain ⟨-, needs, named, statement, -⟩ := parse_insert enabled
  have nonempty : (currencyColumnsOf tableConfig stmt.columns).isEmpty = false := by
    simpa [List.isEmpty_iff] using detected
  simp only [interceptAndRewrite, needs, nonempty, detects, converts, notNone,
    rewriteForDualWrite, named, statement, Proxy.enabledTable?_get? enabled]
  rfl

end Orchestrator

def testStrategy : DetectionStrategy :=
  ⟨"AUTO", 1000000, "currency"⟩

def idnInsert : Insert :=
  ⟨⟨"orders", ""⟩, ["total_amount", "currency"],
    .values [[.sqlVal .intVal "50000000", .sqlVal .strVal "IDN"]]⟩

def exponentInsert : Insert :=
  ⟨⟨"orders", ""⟩, ["total_amount"], .values [[.sqlVal .floatVal "1e6"]]⟩

theorem interceptAndRewrite_idnInsert [Keywords]
    (ordersNotKeyword : Keywords.contains "orders" = false) :
    (Orchestrator.new Proxy.testConfig testStrategy).interceptAndRewrite
        ["total_amount", "currency"] (some (.insert idnInsert)) =
      .ok (.statement (.insert { idnInsert with
        columns := ["total_amount", "currency", "total_amount_idn"]
        rows := .values [[.sqlVal .intVal "50000000", .sqlVal .strVal "IDN",
          .sqlVal .floatVal "50000000000.0000"]] })) := by
  set orchestrator := Orchestrator.new Proxy.testConfig testStrategy
  have enabled : orchestrator.parser.enabledTable? idnInsert.table.format =
      some ordersTestConfig :=
    Proxy.enabledTable?_orders ordersNotKeyword
  obtain ⟨currency, -, -, -, values⟩ := parse_insert enabled
  have columns : currencyColumnsOf ordersTestConfig idnInsert.columns = ["total_amount"] := by
    decide
  have direction : orchestrator.converter.detectDirection ["total_amount", "currency"]
      (orchestrator.parser.parse (.insert idnInsert)) = .ok .idnToIDR :=
    orchestrator.converter.detectDirection_of_explicit_idn (by rw [currency, columns]; simp)
      rfl (by rw [values]; rfl) (by decide)
  have scanned : sscanFloat "50000000" = some 50000000 := by
    simp [sscanFloat, show skipSpace "50000000".data = some "50000000".data by decide,
      show scanDecimal "50000000".data = some ⟨false, 50000000, 0, 0⟩ by decide, Decimal.toRat]
  have rounded : (⟨"BANKERS_ROUND", 4⟩ : Engine).round (50000000 * ((1000 : ℤ) : ℚ)) =
      50000000000 := by
    have whole : (50000000 : ℚ) * ((1000 : ℤ) : ℚ) = ((50000000000 : ℤ) : ℚ) := by norm_num
    rw [whole, Engine.round, if_pos rfl, Engine.bankersRound_intCast _ rfl]
    norm_num
  have converts : orchestrator.converter.convertValues (orchestrator.parser.parse
      (.insert idnInsert)) .idnToIDR =
      .ok (some fun other => if other = "total_amount" then some 50000000000 else none) := by
    simp only [Converter.convertValues, Converter.convertIDNtoIDR, currency, values, columns,
      convertColumns, show firstRowValues idnInsert "total_amount" =
        some (.string "50000000") from rfl, toFloat64, scanned, Except.map,
      show orchestrator.converter.roundingEngine = ⟨"BANKERS_ROUND", 4⟩ from rfl,
      show orchestrator.converter.config.conversion.ratio = 1000 from rfl, rounded]
  rw [Orchestrator.interceptAndRewrite_insert _ _ enabled (by decide) (by decide) direction
    converts]
  simp only [rewriteInsert, shadowColumns, shadowValues, currency, columns]
  simp [idnInsert, shadowLiteral, ordersTestConfig, GoMap.get?]
  decide

theorem interceptAndRewrite_exponentInsert [Keywords]
    (ordersNotKeyword : Keywords.contains "orders" = false) :
    (Orchestrator.new Proxy.testConfig testStrategy).interceptAndRewrite ["total_amount"]
        (some (.insert exponentInsert)) =
      .ok (.statement (.insert { exponentInsert with
        columns := ["total_amount", "total_amount_idn"]
        rows := .values [[.sqlVal .floatVal "1e6", .sqlVal .floatVal "0.0010"]] })) := by
  set orchestrator := Orchestrator.new Proxy.testConfig testStrategy
  have enabled : orchestrator.parser.enabledTable? exponentInsert.table.format =
      some ordersTestConfig :=
    Proxy.enabledTable?_orders ordersNotKeyword
  obtain ⟨currency, -, -, -, values⟩ := parse_insert enabled
  have columns : currencyColumnsOf ordersTestConfig exponentInsert.columns =
      ["total_amount"] := by
    decide
  have detected : orchestrator.converter.detector.detect ["total_amount"]
      (firstRowValues exponentInsert) = .ok ⟨.idr, 9 / 10, "AUTO", true⟩ := by
    have explicit : orchestrator.converter.detector.detectExplicit
        (firstRowValues exponentInsert) =
        .error "currency field 'currency' not found in columns" := rfl
    have valueRange : orchestrator.converter.detector.detectByValueRange
        (firstRowValues exponentInsert) ["total_amount"] =
        .ok ⟨.idn, 7 / 10, "VALUE_RANGE", false⟩ := rfl
    rw [CurrencyDetector.detect_of_auto _ _ _ rfl]
    simp only [CurrencyDetector.detectAuto, explicit, valueRange,
      show detectByFieldName ["total_amount"] = .ok ⟨.idr, 9 / 10, "FIELD_NAME", false⟩ from rfl,
      reduceCtorEq, if_false]
    norm_num
  have direction : orchestrator.converter.detectDirection ["total_amount"]
      (orchestrator.parser.parse (.insert exponentInsert)) = .ok .idrToIDN := by
    simp only [Converter.detectDirection, currency, values, columns, detected]
    rfl
  have converted : (⟨"BANKERS_ROUND", 4⟩ : Engine).convertIDRtoIDN 1 1000 = 1 / 1000 := by
    have scaled : ((1 : ℤ) : ℚ) / ((1000 : ℤ) : ℚ) * 10 ^ 4 = ((10 : ℤ) : ℚ) := by norm_num
    rw [Engine.convertIDRtoIDN, Engine.round, if_pos rfl, Engine.bankersRound_eq,
      Engine.multiplier_eq _ rfl, scaled, Engine.bankersInteger_intCast]
    norm_num
  have converts : orchestrator.converter.convertValues (orchestrator.parser.parse
      (.insert exponentInsert)) .idrToIDN =
      .ok (some fun other => if other = "total_amount" then some (1 / 1000) else none) := by
    simp only [Converter.convertValues, Converter.convertIDRtoIDN, currency, values, columns,
      convertColumns, show firstRowValues exponentInsert "total_amount" =
        some (.string "1e6") from rfl, show toInt64 (.string "1e6") = .ok 1 from rfl,
      Except.map, show orchestrator.converter.roundingEngine = ⟨"BANKERS_ROUND", 4⟩ from rfl,
      show orchestrator.converter.config.conversion.ratio = 1000 from rfl, converted]
  have printed : sprintfFixed 4 1000⁻¹ = "0.0010" := by
    have scaled : |(1000 : ℚ)⁻¹| * 10 ^ 4 = 10 := by
      rw [abs_of_pos (by norm_num)]
      norm_num
    rw [sprintfFixed, scaled, roundHalfEven_ofNat, if_neg (by norm_num)]
    decide
  rw [Orchestrator.interceptAndRewrite_insert _ _ enabled (by decide) (by decide) direction
    converts]
  simp only [rewriteInsert, shadowColumns, shadowValues, currency, columns]
  simp [exponentInsert, shadowLiteral, ordersTestConfig, GoMap.get?, printed]

/-- On the converter tests' inserts, no shadow value is the source divided by the ratio. -/
theorem interceptAndRewrite_shadow_not_divided_by_ratio [Keywords]
    (ordersNotKeyword : Keywords.contains "orders" = false) :
    (Orchestrator.new Proxy.testConfig testStrategy).interceptAndRewrite
        ["total_amount", "currency"] (some (.insert idnInsert)) =
        .ok (.statement (.insert { idnInsert with
          columns := ["total_amount", "currency", "total_amount_idn"]
          rows := .values [[.sqlVal .intVal "50000000", .sqlVal .strVal "IDN",
            .sqlVal .floatVal "50000000000.0000"]] })) ∧
      (Orchestrator.new Proxy.testConfig testStrategy).interceptAndRewrite ["total_amount"]
        (some (.insert exponentInsert)) =
        .ok (.statement (.insert { exponentInsert with
          columns := ["total_amount", "total_amount_idn"]
          rows := .values [[.sqlVal .floatVal "1e6", .sqlVal .floatVal "0.0010"]] })) ∧
      sprintfFixed 4 (roundAt .bankersRound 4 (50000000 / 1000)) = "50000.0000" ∧
      sprintfFixed 4 (roundAt .bankersRound 4 (1000000 / 1000)) = "1000.0000" :=
  ⟨interceptAndRewrite_idnInsert ordersNotKeyword,
    interceptAndRewrite_exponentInsert ordersNotKeyword,
    by norm_num [roundAt]; decide, by norm_num [roundAt]; decide⟩

attribute [local instance] someKeywords in
theorem interceptAndRewrite_shadow_not_divided_by_ratio_someKeywords :
    Keywords.contains "orders" = false ∧
      (Orchestrator.new Proxy.testConfig testStrategy).interceptAndRewrite
        ["total_amount", "currency"] (some (.insert idnInsert)) =
        .ok (.statement (.insert { idnInsert with
          columns := ["total_amount", "currency", "total_amount_idn"]
          rows := .values [[.sqlVal .intVal "50000000", .sqlVal .strVal "IDN",
            .sqlVal .floatVal "50000000000.0000"]] })) ∧
      (Orchestrator.new Proxy.testConfig testStrategy).interceptAndRewrite ["total_amount"]
        (some (.insert exponentInsert)) =
        .ok (.statement (.insert { exponentInsert with
          columns := ["total_amount", "total_amount_idn"]
          rows := .values [[.sqlVal .floatVal "1e6", .sqlVal .floatVal "0.0010"]] })) ∧
      sprintfFixed 4 (roundAt .bankersRound 4 (50000000 / 1000)) = "50000.0000" ∧
      sprintfFixed 4 (roundAt .bankersRound 4 (1000000 / 1000)) = "1000.0000" :=
  ⟨rfl, interceptAndRewrite_shadow_not_divided_by_ratio rfl⟩

end TransisiDB.DualWrite
