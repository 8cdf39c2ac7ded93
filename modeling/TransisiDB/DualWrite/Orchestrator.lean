import TransisiDB.DualWrite.Converter

set_option autoImplicit false

/-!
# The orchestrator of `orchestrator.go`

`internal/dualwrite/orchestrator.go`, the orchestrator before the v2.0 converter: it has no
direction, reads every currency value with `strconv.ParseInt(v, 10, 64)` and converts it
`IDR → IDN`.  `ParseInt` and `ParseUint` are modelled as the standard library writes them
for base 10 and 64 bits, with the range error `ParseUint` returns as soon as a digit takes
the value past `maxUint64`.

* `parseInt_eq_ok_iff`: `ParseInt` accepts exactly a sign or none, then decimal digits of an
  `int64`, and reads their value.
* `V1.Orchestrator.convertCurrencyValues_exact`: the conversion succeeds exactly when each
  currency column that has a value holds such a literal, and gives each its `ConvertIDRtoIDN`.
* `V1.Orchestrator.interceptAndRewrite_agrees`: where the v2.0 orchestrator of the same
  configuration reads the direction `IDR → IDN`, it forwards what this one forwards.
-/

namespace TransisiDB.DualWrite

open TransisiDB.Sql TransisiDB.Sql.Parser TransisiDB.Detector

/-! ## `strconv.ParseInt` in base 10 -/

/-- The `Err` of a `*strconv.NumError`. -/
inductive NumError where
  | invalid
  | outOfRange
  deriving DecidableEq, Repr

/-- One digit more in the loop of `ParseUint`. -/
def digitStep (value : Nat) (c : Char) : Nat :=
  10 * value + (c.toNat - '0'.toNat)

/-- The digit loop of `strconv.ParseUint(s, 10, 64)` from the value `n` read so far. -/
def parseUintDigits (n : Nat) : List Char → Nat × Option NumError
  | [] => (n, none)
  | c :: rest =>
      if c.isDigit then
        if n ≥ (2 ^ 64 - 1) / 10 + 1 then (2 ^ 64 - 1, some .outOfRange)
        else if digitStep n c > 2 ^ 64 - 1 then (2 ^ 64 - 1, some .outOfRange)
        else parseUintDigits (digitStep n c) rest
      else (0, some .invalid)

/-- `strconv.ParseUint(s, 10, 64)`: an empty text is an `ErrSyntax`. -/
def parseUint (s : List Char) : Nat × Option NumError :=
  if s = [] then (0, some .invalid) else parseUintDigits 0 s

/-- `strconv.ParseInt(s, 10, 64)` once the sign is taken off. -/
def parseSigned (negative : Bool) (digits : List Char) : Except NumError Int :=
  match parseUint digits with
  | (_, some .invalid) => .error .invalid
  | (un, _) =>
      if !negative ∧ un ≥ 2 ^ 63 then .error .outOfRange
      else if negative ∧ un > 2 ^ 63 then .error .outOfRange
      else .ok (if negative then -(un : Int) else un)

/-- `strconv.ParseInt(s, 10, 64)`: an empty text is an `ErrSyntax`. -/
def parseInt (s : String) : Except NumError Int :=
  match s.data with
  | [] => .error .invalid
  | c :: rest =>
      if c = '+' then parseSigned false rest
      else if c = '-' then parseSigned true rest
      else parseSigned false (c :: rest)

/-- The texts `ParseInt(s, 10, 64)` accepts, with the value it reads. -/
inductive DecimalLiteral : List Char → Int → Prop where
  | unsigned {digits : List Char} : digits ≠ [] → digits.all Char.isDigit →
      digitsValue digits < 2 ^ 63 → DecimalLiteral digits (digitsValue digits)
  | plus {digits : List Char} : digits ≠ [] → digits.all Char.isDigit →
      digitsValue digits < 2 ^ 63 → DecimalLiteral ('+' :: digits) (digitsValue digits)
  | minus {digits : List Char} : digits ≠ [] → digits.all Char.isDigit →
      digitsValue digits ≤ 2 ^ 63 → DecimalLiteral ('-' :: digits) (-(digitsValue digits : Int))

theorem digitStep_foldl_ge (n : Nat) (cs : List Char) : n ≤ cs.foldl digitStep n := by
  induction cs generalizing n with
  | nil => exact Nat.le_refl n
  | cons c rest inductionHypothesis =>
      exact Nat.le_trans (by unfold digitStep; omega) (inductionHypothesis (digitStep n c))

theorem parseUintDigits_eq_none_iff {n v : Nat} (bounded : n ≤ 2 ^ 64 - 1) {cs : List Char} :
    parseUintDigits n cs = (v, none) ↔
      cs.all Char.isDigit ∧ v = cs.foldl digitStep n ∧ cs.foldl digitStep n ≤ 2 ^ 64 - 1 := by
  induction cs generalizing n with
  | nil =>
      simp only [parseUintDigits, Prod.mk.injEq, and_true, List.all_nil, List.foldl_nil,
        true_and, bounded]
      exact eq_comm
  | cons c rest inductionHypothesis =>
      have grows := digitStep_foldl_ge (digitStep n c) rest
      simp only [parseUintDigits, List.all_cons, Bool.and_eq_true, List.foldl_cons]
      by_cases digit : c.isDigit
      · simp only [digit, if_true, true_and]
        split_ifs with tooLarge overflow
        · simp only [Prod.mk.injEq, reduceCtorEq, and_false, false_iff, not_and]
          have tenfold : 10 * n ≤ digitStep n c := Nat.le_add_right _ _
          omega
        · simp only [Prod.mk.injEq, reduceCtorEq, and_false, false_iff, not_and]
          omega
        · exact inductionHypothesis (by omega)
      · simp [digit]

theorem parseUintDigits_of_outOfRange {n v : Nat} {cs : List Char}
    (parsed : parseUintDigits n cs = (v, some .outOfRange)) : v = 2 ^ 64 - 1 := by
  induction cs generalizing n with
  | nil => cases parsed
  | cons c rest inductionHypothesis =>
      simp only [parseUintDigits] at parsed
      split_ifs at parsed
      · exact (Prod.mk.inj parsed).1.symm
      · exact (Prod.mk.inj parsed).1.symm
      · exact inductionHypothesis parsed
      · simp at parsed

theorem parseUint_of_outOfRange {v : Nat} {cs : List Char}
    (parsed : parseUint cs = (v, some .outOfRange)) : v = 2 ^ 64 - 1 := by
  unfold parseUint at parsed
  split_ifs at parsed
  · simp at parsed
  · exact parseUintDigits_of_outOfRange parsed

theorem digitsValue_eq (cs : List Char) : digitsValue cs = cs.foldl digitStep 0 := rfl

theorem parseUint_eq_none_iff {v : Nat} {cs : List Char} :
    parseUint cs = (v, none) ↔
      cs ≠ [] ∧ cs.all Char.isDigit ∧ v = digitsValue cs ∧ digitsValue cs ≤ 2 ^ 64 - 1 := by
  unfold parseUint
  split_ifs with empty
  · simp [empty]
  · simp only [parseUintDigits_eq_none_iff (Nat.zero_le _), digitsValue_eq, ne_eq, empty,
      not_false_eq_true, true_and]

theorem parseSigned_eq_ok_iff {negative : Bool} {digits : List Char} {value : Int} :
    parseSigned negative digits = .ok value ↔
      digits ≠ [] ∧ digits.all Char.isDigit ∧
        (if negative then digitsValue digits ≤ 2 ^ 63 ∧ value = -(digitsValue digits : Int)
          else digitsValue digits < 2 ^ 63 ∧ value = digitsValue digits) := by
  unfold parseSigned
  rcases parsed : parseUint digits with ⟨un, _ | err⟩
  · obtain ⟨nonempty, allDigits, rfl, -⟩ := parseUint_eq_none_iff.mp parsed
    cases negative
    · by_cases fits : digitsValue digits < 2 ^ 63 <;> simp only [Nat.reducePow] at fits
      · simp [nonempty, allDigits, fits, Nat.not_le.mpr fits, eq_comm]
      · simp [fits, Nat.not_lt.mp fits]
    · by_cases fits : digitsValue digits ≤ 2 ^ 63 <;> simp only [Nat.reducePow] at fits
      · simp [nonempty, allDigits, fits, Nat.not_lt.mpr fits, eq_comm]
      · simp [fits, Nat.not_le.mp fits]
  · constructor
    · intro accepted
      cases err
      · cases accepted
      · obtain rfl := parseUint_of_outOfRange parsed
        cases negative <;> simp at accepted
    · rintro ⟨nonempty, allDigits, fits⟩
      have valid := parseUint_eq_none_iff.mpr ⟨nonempty, allDigits, rfl, by split at fits <;> omega⟩
      rw [valid] at parsed
      cases parsed

theorem parseInt_eq_ok_iff {text : String} {value : Int} :
    parseInt text = .ok value ↔ DecimalLiteral text.data value := by
  obtain ⟨_ | ⟨c, rest⟩⟩ := text
  · refine ⟨fun accepted => (nomatch accepted), fun literal => ?_⟩
    cases literal with
    | unsigned nonempty => exact absurd rfl nonempty
  · simp only [parseInt]
    split_ifs with plus minus <;>
      simp only [parseSigned_eq_ok_iff, Bool.false_eq_true, if_true, if_false]
    · subst plus
      refine ⟨fun ⟨nonempty, allDigits, fits, read⟩ => read ▸ .plus nonempty allDigits fits,
        fun literal => ?_⟩
      cases literal with
      | unsigned _ allDigits => simp at allDigits
      | plus nonempty allDigits fits => exact ⟨nonempty, allDigits, fits, rfl⟩
    · subst minus
      refine ⟨fun ⟨nonempty, allDigits, fits, read⟩ => read ▸ .minus nonempty allDigits fits,
        fun literal => ?_⟩
      cases literal with
      | unsigned _ allDigits => simp at allDigits
      | minus nonempty allDigits fits => exact ⟨nonempty, allDigits, fits, rfl⟩
    · refine ⟨fun ⟨nonempty, allDigits, fits, read⟩ => read ▸ .unsigned nonempty allDigits fits,
        fun literal => ?_⟩
      cases literal with
      | unsigned nonempty allDigits fits => exact ⟨nonempty, allDigits, fits, rfl⟩
      | plus => exact absurd rfl plus
      | minus => exact absurd rfl minus

theorem sscanInt_of_decimalLiteral {text : String} {value : Int}
    (literal : DecimalLiteral text.data value) : sscanInt text = some value := by
  obtain ⟨cs⟩ := text
  have whole : ∀ digits : List Char, digits.all Char.isDigit →
      digits.takeWhile Char.isDigit = digits :=
    fun digits allDigits => List.takeWhile_eq_self_iff.mpr (List.all_eq_true.mp allDigits)
  cases literal with
  | unsigned nonempty allDigits fits =>
      dsimp only at nonempty allDigits fits
      obtain ⟨c, rest, rfl⟩ := List.exists_cons_of_ne_nil nonempty
      have digit : c.isDigit := (List.all_eq_true.mp allDigits) c (List.mem_cons_self _ _)
      have notNewline : c ≠ '\n' := fun newline => by subst newline; simp at digit
      simp only [sscanInt, skipSpace_cons notNewline (isGoSpace_of_isDigit digit),
        Option.some_bind, takeSign_of_isDigit digit, whole _ allDigits]
      simp
      omega
  | plus nonempty allDigits fits =>
      simp only [sscanInt, skipSpace_cons (show '+' ≠ '\n' by decide) (by decide),
        Option.some_bind, takeSign, whole _ allDigits]
      simp [nonempty]
      omega
  | minus nonempty allDigits fits =>
      simp only [sscanInt, skipSpace_cons (show '-' ≠ '\n' by decide) (by decide),
        Option.some_bind, takeSign, whole _ allDigits]
      simp [nonempty]
      omega

/-! ## The orchestrator -/

namespace V1

/-- The errors of `convertCurrencyValues`. -/
inductive ConvertError where
  | parse (column text : String) (err : NumError)
  | unsupportedType (column typeName : String)
  deriving DecidableEq, Repr

/-- The type switch of `convertCurrencyValues`. -/
def intValueOf (colName : String) : Value → Except ConvertError Int
  | .string v =>
      match parseInt v with
      | .ok parsed => .ok parsed
      | .error err => .error (.parse colName v err)
  | value => .error (.unsupportedType colName (typeName value))

theorem intValueOf_eq_ok {colName : String} {value : Value} {n : Int} :
    intValueOf colName value = .ok n ↔ ∃ text, value = .string text ∧ DecimalLiteral text.data n := by
  cases value with
  | string text =>
      simp only [intValueOf, Value.string.injEq, exists_eq_left', ← parseInt_eq_ok_iff]
      split <;> simp_all
  | _ => simp [intValueOf]

/-- The loop of `convertCurrencyValues` over the currency columns, to the first error. -/
def convertCurrencyColumns (engine : Engine) (ratio : Int) (values : Values) :
    List String → Except ConvertError (String → Option ℚ)
  | [] => .ok fun _ => none
  | colName :: rest =>
      match values colName with
      | none => convertCurrencyColumns engine ratio values rest
      | some value =>
          match intValueOf colName value with
          | .error err => .error err
          | .ok intValue =>
              (convertCurrencyColumns engine ratio values rest).map fun converted other =>
                if other = colName then some (engine.convertIDRtoIDN intValue ratio)
                else converted other

section Loop

variable {engine : Engine} {ratio : Int} {values : Values}

theorem convertCurrencyColumns_simulates {convertOne : Value → Except NumberError ℚ}
    (agrees : ∀ colName value n, intValueOf colName value = .ok n →
      convertOne value = .ok (engine.convertIDRtoIDN n ratio))
    {columns : List String} {converted : String → Option ℚ}
    (ran : convertCurrencyColumns engine ratio values columns = .ok converted) :
    convertColumns convertOne values columns = .ok converted := by
  induction columns generalizing converted with
  | nil => simpa [convertCurrencyColumns, convertColumns] using ran
  | cons colName rest inductionHypothesis =>
      simp only [convertCurrencyColumns] at ran
      simp only [convertColumns]
      cases found : values colName with
      | none =>
          simp only [found] at ran ⊢
          exact inductionHypothesis ran
      | some value =>
          simp only [found] at ran ⊢
          cases read : intValueOf colName value with
          | error err => simp [read] at ran
          | ok n =>
              simp only [read] at ran
              rw [agrees _ _ _ read]
              cases restRan : convertCurrencyColumns engine ratio values rest with
              | error err => simp [restRan, Except.map] at ran
              | ok restConverted =>
                  simp only [restRan, Except.map, Except.ok.injEq] at ran
                  simp [inductionHypothesis restRan, Except.map, ← ran]

theorem convertCurrencyColumns_exists_ok {columns : List String}
    (accepted : ∀ col ∈ columns, ∀ value, values col = some value →
      ∃ n, intValueOf col value = .ok n) :
    ∃ converted, convertCurrencyColumns engine ratio values columns = .ok converted := by
  induction columns with
  | nil => exact ⟨_, rfl⟩
  | cons colName rest inductionHypothesis =>
      obtain ⟨restConverted, restRan⟩ :=
        inductionHypothesis fun col member => accepted col (List.mem_cons_of_mem _ member)
      cases found : values colName with
      | none => exact ⟨restConverted, by simp [convertCurrencyColumns, found, restRan]⟩
      | some value =>
          obtain ⟨n, read⟩ := accepted colName (List.mem_cons_self _ _) value found
          exact ⟨fun other => if other = colName then some (engine.convertIDRtoIDN n ratio)
            else restConverted other,
            by simp [convertCurrencyColumns, found, read, restRan, Except.map]⟩

end Loop

/-- The orchestrator of `orchestrator.go`. -/
structure Orchestrator where
  parser : Parser
  roundingEngine : Engine
  config : Config

def Orchestrator.new (cfg : Config) : Orchestrator :=
  ⟨⟨cfg.tables⟩, ⟨cfg.conversion.roundingStrategy, cfg.conversion.precision⟩, cfg⟩

/-- The errors of `InterceptAndRewrite`. -/
inductive InterceptError where
  | parse
  | values (err : ConvertError)
  deriving DecidableEq, Repr

namespace Orchestrator

variable (o : Orchestrator)

def convertCurrencyValues (pq : ParsedQuery) : Except ConvertError (String → Option ℚ) :=
  convertCurrencyColumns o.roundingEngine o.config.conversion.ratio pq.values pq.currencyColumns

/-- `InterceptAndRewrite` on what `sqlparser.Parse` returned (`none` for its error). -/
def interceptAndRewrite [Keywords] : Option Statement → Except InterceptError Parser.Rewritten
  | none => .error .parse
  | some stmt =>
      let pq := o.parser.parse stmt
      if !pq.needsTransform then .ok .original
      else
        match o.convertCurrencyValues pq with
        | .error err => .error (.values err)
        | .ok convertedValues => .ok (o.parser.rewriteForDualWrite pq convertedValues)

/-- The conversion succeeds exactly on `ParseInt` texts and gives their `ConvertIDRtoIDN`. -/
theorem convertCurrencyValues_exact (pq : ParsedQuery) :
    ((∃ converted, o.convertCurrencyValues pq = .ok converted) ↔
        ∀ col ∈ pq.currencyColumns, ∀ value, pq.values col = some value →
          ∃ text n, value = .string text ∧ DecimalLiteral text.data n) ∧
      ∀ converted, o.convertCurrencyValues pq = .ok converted →
        ∀ col ∈ pq.currencyColumns, ∀ value, pq.values col = some value →
          ∃ text n, value = .string text ∧ DecimalLiteral text.data n ∧
            converted col = some (o.roundingEngine.convertIDRtoIDN n o.config.conversion.ratio) := by
  have content : ∀ converted, o.convertCurrencyValues pq = .ok converted →
      ∀ col ∈ pq.currencyColumns, ∀ value, pq.values col = some value →
        ∃ text n, value = .string text ∧ DecimalLiteral text.data n ∧
          converted col = some (o.roundingEngine.convertIDRtoIDN n o.config.conversion.ratio) := by
    intro converted ran col member value found
    let readBack : Value → Except NumberError ℚ := fun value =>
      match intValueOf "" value with
      | .ok n => .ok (o.roundingEngine.convertIDRtoIDN n o.config.conversion.ratio)
      | .error _ => .error .scan
    have agrees : ∀ colName value n, intValueOf colName value = .ok n →
        readBack value = .ok (o.roundingEngine.convertIDRtoIDN n o.config.conversion.ratio) :=
      fun colName value n read => by
        simp only [readBack, intValueOf_eq_ok.mpr (intValueOf_eq_ok.mp read)]
    obtain ⟨convertedValue, converts, stored⟩ :=
      convertColumns_ok (convertCurrencyColumns_simulates agrees ran) member found
    simp only [readBack] at converts
    split at converts
    · rename_i n read
      obtain ⟨text, rfl, literal⟩ := intValueOf_eq_ok.mp read
      cases converts
      exact ⟨text, n, rfl, literal, stored⟩
    · cases converts
  refine ⟨⟨fun ⟨converted, ran⟩ col member value found => ?_, fun accepted => ?_⟩, content⟩
  · obtain ⟨text, n, isText, literal, -⟩ := content converted ran col member value found
    exact ⟨text, n, isText, literal⟩
  · exact convertCurrencyColumns_exists_ok fun col member value found =>
      let ⟨text, n, isText, literal⟩ := accepted col member value found
      ⟨n, intValueOf_eq_ok.mpr ⟨text, isText, literal⟩⟩

attribute [local instance] someKeywords in
example : (Orchestrator.new Proxy.testConfig).interceptAndRewrite (some (.insert exponentInsert)) =
    .error (.values (.parse "total_amount" "1e6" .invalid)) := rfl

theorem toInt64_of_intValueOf {colName : String} {value : Value} {n : Int}
    (read : intValueOf colName value = .ok n) : toInt64 value = .ok n := by
  obtain ⟨text, rfl, literal⟩ := intValueOf_eq_ok.mp read
  simp [toInt64, sscanInt_of_decimalLiteral literal]

/-- Where v2.0 reads `IDR → IDN`, it forwards what this orchestrator forwards. -/
theorem interceptAndRewrite_agrees [Keywords] (cfg : Config) (strategy : DetectionStrategy)
    (keys : List String) (stmt : Statement)
    (detects : ((Orchestrator.new cfg).parser.parse stmt).needsTransform = true →
      (DualWrite.Orchestrator.new cfg strategy).converter.detectDirection keys
        ((Orchestrator.new cfg).parser.parse stmt) = .ok .idrToIDN)
    {rewritten : Parser.Rewritten}
    (ran : (Orchestrator.new cfg).interceptAndRewrite (some stmt) = .ok rewritten) :
    (DualWrite.Orchestrator.new cfg strategy).interceptAndRewrite keys (some stmt) =
      .ok rewritten := by
  have sameParser :
      (DualWrite.Orchestrator.new cfg strategy).parser = (Orchestrator.new cfg).parser := rfl
  simp only [interceptAndRewrite] at ran
  simp only [DualWrite.Orchestrator.interceptAndRewrite, sameParser]
  generalize (Orchestrator.new cfg).parser.parse stmt = pq at ran detects ⊢
  cases needs : pq.needsTransform
  · simpa [needs] using ran
  · simp only [needs, Bool.not_true, if_false, Bool.false_eq_true] at ran ⊢
    rw [detects needs]
    cases converts : (Orchestrator.new cfg).convertCurrencyValues pq with
    | error err => simp [converts] at ran
    | ok converted =>
        simp only [converts, Except.ok.injEq] at ran
        have agrees : ∀ colName value n, intValueOf colName value = .ok n →
            ((toInt64 value).map fun intValue =>
              (newConverter cfg strategy).roundingEngine.convertIDRtoIDN intValue
                (newConverter cfg strategy).config.conversion.ratio) =
              .ok ((newConverter cfg strategy).roundingEngine.convertIDRtoIDN n
                (newConverter cfg strategy).config.conversion.ratio) :=
          fun colName value n read => by simp [toInt64_of_intValueOf read, Except.map]
        have v2 : (newConverter cfg strategy).convertValues pq .idrToIDN = .ok (some converted) := by
          rw [Converter.convertValues, Converter.convertIDRtoIDN,
            convertCurrencyColumns_simulates agrees converts]
          rfl
        simp only [DualWrite.Orchestrator.new] at v2 ⊢
        simp [v2, ← ran]

end Orchestrator

def idrInsert : Insert :=
  ⟨⟨"orders", ""⟩, ["total_amount", "currency"],
    .values [[.sqlVal .intVal "500000", .sqlVal .strVal "IDR"]]⟩

attribute [local instance] someKeywords in
theorem interceptAndRewrite_agrees_idrInsert :
    ∃ rewritten, (Orchestrator.new Proxy.testConfig).interceptAndRewrite
        (some (.insert idrInsert)) = .ok rewritten ∧
      (DualWrite.Orchestrator.new Proxy.testConfig testStrategy).interceptAndRewrite
        ["total_amount", "currency"] (some (.insert idrInsert)) = .ok rewritten := by
  have ran : (Orchestrator.new Proxy.testConfig).interceptAndRewrite (some (.insert idrInsert)) =
      .ok _ := rfl
  have detects : (DualWrite.Orchestrator.new Proxy.testConfig testStrategy).converter.detectDirection
      ["total_amount", "currency"]
      ((Orchestrator.new Proxy.testConfig).parser.parse (.insert idrInsert)) = .ok .idrToIDN := rfl
  exact ⟨_, ran, Orchestrator.interceptAndRewrite_agrees _ _ _ _ (fun _ => detects) ran⟩

end V1

end TransisiDB.DualWrite
