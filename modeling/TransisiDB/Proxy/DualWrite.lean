import TransisiDB.Proxy.Session

set_option autoImplicit false

/-!
# What `handleQuery` forwards for an `INSERT` or an `UPDATE`

The statement `Session.handleQuery` sends in place of a dual-write candidate, from the
statement `sqlparser.Parse` returned: which columns and assignments it appends, from which
values, and what happens when the forwarded statement is sent again.
-/

namespace TransisiDB.Proxy

open TransisiDB.Sql Parser

theorem enabledTable?_get? {p : Parser} {tableName : String} {tableConfig : TableConfig}
    (enabled : p.enabledTable? tableName = some tableConfig) :
    p.tableConfig.get? tableName = some tableConfig := by
  unfold enabledTable? at enabled
  split at enabled
  · split_ifs at enabled; simp_all
  · cases enabled

/-- The configuration of the dual-write tests (`getTestConfig`). -/
def testConfig : Config :=
  ⟨⟨1000, 4, "BANKERS_ROUND"⟩, ⟨0, 0⟩, ⟨[("orders", ordersTestConfig)], by decide⟩⟩

/-- The shadow columns the rewrite of an `INSERT` naming `columns` appends. -/
def shadowColumnsOf (tableConfig : TableConfig) (columns : List String) : List String :=
  (currencyColumnsOf tableConfig columns).filterMap fun col =>
    (tableConfig.columns.get? col).map ColumnConfig.targetColumn

theorem shadowColumnsOf_append (tableConfig : TableConfig) (columns more : List String) :
    shadowColumnsOf tableConfig (columns ++ more) =
      shadowColumnsOf tableConfig columns ++ shadowColumnsOf tableConfig more := by
  simp [shadowColumnsOf, currencyColumnsOf, List.filter_append, List.filterMap_append]

theorem shadowColumnsOf_ne_nil {tableConfig : TableConfig} {columns : List String}
    (detected : currencyColumnsOf tableConfig columns ≠ []) :
    shadowColumnsOf tableConfig columns ≠ [] := by
  obtain ⟨col, member⟩ := List.exists_mem_of_ne_nil _ detected
  obtain ⟨colConfig, found⟩ := Option.isSome_iff_exists.mp (List.mem_filter.mp member).2
  exact List.ne_nil_of_mem (show colConfig.targetColumn ∈ shadowColumnsOf tableConfig columns from
    List.mem_filterMap.mpr ⟨col, member, by rw [found]; rfl⟩)

theorem rewriteQuery_insert [Keywords] {config : Config} {stmt : Insert}
    {tableConfig : TableConfig}
    (enabled : (Parser.mk config.tables).enabledTable? stmt.table.format = some tableConfig)
    (detected : currencyColumnsOf tableConfig stmt.columns ≠ []) :
    let pq := (Parser.mk config.tables).parse (.insert stmt)
    rewriteQuery config (some (.insert stmt)) =
      .rewritten (.insert (rewriteInsert stmt pq tableConfig
        (convertValues config.conversion.ratio pq.values))) := by
  obtain ⟨-, needs, named, statement, -⟩ := parse_insert enabled
  have nonempty : (currencyColumnsOf tableConfig stmt.columns).isEmpty = false := by
    simpa [List.isEmpty_iff] using detected
  simp only [rewriteQuery, rewriteForDualWrite, needs, named, statement,
    enabledTable?_get? enabled, nonempty]
  rfl

theorem enabledTable?_orders [Keywords] (ordersNotKeyword : Keywords.contains "orders" = false) :
    (Parser.mk testConfig.tables).enabledTable? (TableName.format ⟨"orders", ""⟩) =
      some ordersTestConfig := by
  rw [TableName.format_unqualified (by decide),
    @formatID_of_plain _ "orders" (by decide) ordersNotKeyword]
  rfl

def twoRowInsert : Insert :=
  ⟨⟨"orders", ""⟩, ["customer_id", "total_amount"],
    .values [[.sqlVal .intVal "1", .sqlVal .intVal "500000"],
      [.sqlVal .intVal "2", .sqlVal .intVal "750000"]]⟩

/-- Both rows of `twoRowInsert` get the first row's shadow value. -/
theorem rewriteQuery_copies_first_row_shadow_value [Keywords]
    (ordersNotKeyword : Keywords.contains "orders" = false) :
    rewriteQuery testConfig (some (.insert twoRowInsert)) =
        .rewritten (.insert { twoRowInsert with
          columns := ["customer_id", "total_amount", "total_amount_idn"]
          rows := .values
            [[.sqlVal .intVal "1", .sqlVal .intVal "500000", .sqlVal .floatVal "500.0000"],
              [.sqlVal .intVal "2", .sqlVal .intVal "750000", .sqlVal .floatVal "500.0000"]] }) ∧
      sprintfFixed 4 (roundAt .bankersRound 4 (750000 / 1000)) = "750.0000" := by
  have enabled : (Parser.mk testConfig.tables).enabledTable? twoRowInsert.table.format =
      some ordersTestConfig :=
    enabledTable?_orders ordersNotKeyword
  have scanned : sscanFloat "500000" = some 500000 := by
    simp [sscanFloat, show skipSpace "500000".data = some "500000".data by decide,
      show scanDecimal "500000".data = some ⟨false, 500000, 0, 0⟩ by decide, Decimal.toRat]
  have converted : (500000 : ℚ) / 1000 = 500 := by norm_num
  have rounded : roundAt .bankersRound 4 (750000 / 1000) = 750 := by norm_num [roundAt]
  have detected : currencyColumnsOf ordersTestConfig twoRowInsert.columns = ["total_amount"] := by
    decide
  obtain ⟨currency, -, -, -, values⟩ := parse_insert enabled
  rw [rewriteQuery_insert enabled (by decide), rounded]
  simp only [rewriteInsert, shadowColumns, shadowValues, currency, values, detected]
  simp [twoRowInsert, firstRowValues, collectRowValues, convertValues, extractValue, scanned,
    converted, shadowLiteral, testConfig, ordersTestConfig, GoMap.get?]
  decide

attribute [local instance] someKeywords in
theorem rewriteQuery_copies_first_row_shadow_value_someKeywords :
    Keywords.contains "orders" = false ∧
      rewriteQuery testConfig (some (.insert twoRowInsert)) =
        .rewritten (.insert { twoRowInsert with
          columns := ["customer_id", "total_amount", "total_amount_idn"]
          rows := .values
            [[.sqlVal .intVal "1", .sqlVal .intVal "500000", .sqlVal .floatVal "500.0000"],
              [.sqlVal .intVal "2", .sqlVal .intVal "750000", .sqlVal .floatVal "500.0000"]] }) ∧
      sprintfFixed 4 (roundAt .bankersRound 4 (750000 / 1000)) = "750.0000" :=
  ⟨rfl, rewriteQuery_copies_first_row_shadow_value rfl⟩

def nullInsert : Insert :=
  ⟨⟨"orders", ""⟩, ["customer_id", "total_amount"], .values [[.sqlVal .intVal "1", .nullVal]]⟩

/-- `nullInsert` gets the shadow column but no value for it. -/
theorem rewriteQuery_appends_column_without_value [Keywords]
    (ordersNotKeyword : Keywords.contains "orders" = false) :
    rewriteQuery testConfig (some (.insert nullInsert)) =
      .rewritten (.insert { nullInsert with
        columns := ["customer_id", "total_amount", "total_amount_idn"] }) := by
  have enabled : (Parser.mk testConfig.tables).enabledTable? nullInsert.table.format =
      some ordersTestConfig :=
    enabledTable?_orders ordersNotKeyword
  have detected : currencyColumnsOf ordersTestConfig nullInsert.columns = ["total_amount"] := by
    decide
  obtain ⟨currency, -, -, -, values⟩ := parse_insert enabled
  rw [rewriteQuery_insert enabled (by decide)]
  simp only [rewriteInsert, shadowColumns, shadowValues, currency, values, detected]
  simp [nullInsert, firstRowValues, collectRowValues, convertValues, extractValue,
    testConfig, ordersTestConfig, GoMap.get?]

attribute [local instance] someKeywords in
theorem rewriteQuery_appends_column_without_value_someKeywords :
    Keywords.contains "orders" = false ∧
      rewriteQuery testConfig (some (.insert nullInsert)) =
        .rewritten (.insert { nullInsert with
          columns := ["customer_id", "total_amount", "total_amount_idn"] }) :=
  ⟨rfl, rewriteQuery_appends_column_without_value rfl⟩

theorem rewriteInsert_columns [Keywords] {config : Config} {stmt : Insert}
    {tableConfig : TableConfig}
    (enabled : (Parser.mk config.tables).enabledTable? stmt.table.format = some tableConfig)
    (converted : String → Option ℚ) :
    (rewriteInsert stmt ((Parser.mk config.tables).parse (.insert stmt)) tableConfig
        converted).columns = stmt.columns ++ shadowColumnsOf tableConfig stmt.columns := by
  simp [rewriteInsert, shadowColumns, shadowColumnsOf, (parse_insert enabled).1]

theorem rewriteQuery_update [Keywords] {config : Config} {stmt : Update}
    {tableConfig : TableConfig}
    (enabled : (Parser.mk config.tables).enabledTable? (updateTableName stmt.tableExprs) =
      some tableConfig)
    (detected : currencyColumnsOf tableConfig (stmt.exprs.map (·.name.name)) ≠ []) :
    let pq := (Parser.mk config.tables).parse (.update stmt)
    rewriteQuery config (some (.update stmt)) =
      .rewritten (.update (rewriteUpdate stmt pq tableConfig
        (convertValues config.conversion.ratio pq.values))) := by
  obtain ⟨-, needs, tableName, statement, -⟩ := parse_update enabled
  have nonempty :
      (currencyColumnsOf tableConfig (stmt.exprs.map (·.name.name))).isEmpty = false := by
    simpa [List.isEmpty_iff] using detected
  simp only [rewriteQuery, rewriteForDualWrite, needs, tableName, statement,
    enabledTable?_get? enabled, nonempty]
  rfl

def incrementUpdate : Update :=
  ⟨[.aliased (.tableName ⟨"orders", ""⟩)],
    [⟨⟨"total_amount", ⟨"", ""⟩⟩,
      .binary "+" (.colName ⟨"total_amount", ⟨"", ""⟩⟩) (.sqlVal .intVal "1000")⟩]⟩

/-- An increment is rewritten to `total_amount_idn = 0.0000`. -/
theorem rewriteQuery_assigns_zero_for_increment [Keywords] :
    rewriteQuery testConfig (some (.update incrementUpdate)) =
      .rewritten (.update { incrementUpdate with
        exprs := incrementUpdate.exprs ++
          [⟨⟨"total_amount_idn", ⟨"", ""⟩⟩, .sqlVal .floatVal "0.0000"⟩] }) := by
  have enabled : (Parser.mk testConfig.tables).enabledTable?
      (updateTableName incrementUpdate.tableExprs) = some ordersTestConfig := rfl
  have unscanned : sscanFloat (Expr.binary "+" (.colName ⟨"total_amount", ⟨"", ""⟩⟩)
      (.sqlVal .intVal "1000")).format = none := by
    simp only [Expr.format, formatSQLVal, if_true]
    cases keyword : Keywords.contains (lowered "total_amount")
    · rw [formatID_of_plain (by decide) keyword]
      simp [sscanFloat, show skipSpace "total_amount + 1000".data =
        some "total_amount + 1000".data by decide,
        show scanDecimal "total_amount + 1000".data = none by decide]
    · rw [formatID_of_keyword keyword]
      simp [sscanFloat, show skipSpace "`total_amount` + 1000".data =
        some "`total_amount` + 1000".data by decide,
        show scanDecimal "`total_amount` + 1000".data = none by decide]
  have detected : currencyColumnsOf ordersTestConfig (incrementUpdate.exprs.map (·.name.name)) =
      ["total_amount"] := by
    decide
  obtain ⟨currency, -, -, -, values⟩ := parse_update enabled
  rw [rewriteQuery_update enabled (by decide)]
  simp only [rewriteUpdate, shadowAssignments, currency, values, detected]
  simp [incrementUpdate, assignedValues, convertValues, extractValue, unscanned,
    shadowLiteral, testConfig, ordersTestConfig, GoMap.get?]
  decide

theorem rewriteQuery_insert_inv [Keywords] {config : Config} {stmt : Insert}
    {newStmt : Statement}
    (rewritten : rewriteQuery config (some (.insert stmt)) = .rewritten newStmt) :
    ∃ tableConfig,
      (Parser.mk config.tables).enabledTable? stmt.table.format = some tableConfig ∧
        currencyColumnsOf tableConfig stmt.columns ≠ [] ∧
        newStmt = .insert (rewriteInsert stmt ((Parser.mk config.tables).parse (.insert stmt))
          tableConfig (convertValues config.conversion.ratio
            ((Parser.mk config.tables).parse (.insert stmt)).values)) := by
  cases enabled : (Parser.mk config.tables).enabledTable? stmt.table.format with
  | none =>
      simp [rewriteQuery, parse_insert_of_disabled enabled] at rewritten
  | some tableConfig =>
      by_cases detected : currencyColumnsOf tableConfig stmt.columns = []
      · simp [rewriteQuery, (parse_insert enabled).2.1, detected] at rewritten
      · rw [rewriteQuery_insert enabled detected, Forwarded.rewritten.injEq] at rewritten
        exact ⟨tableConfig, rfl, detected, rewritten.symm⟩

theorem rewriteQuery_insert_again [Keywords] {config : Config} {stmt newStmt : Insert}
    (first : rewriteQuery config (some (.insert stmt)) = .rewritten (.insert newStmt)) :
    ∃ shadow extra again, shadow ≠ [] ∧ newStmt.columns = stmt.columns ++ shadow ∧
      rewriteQuery config (some (.insert newStmt)) = .rewritten (.insert again) ∧
      again.columns = newStmt.columns ++ shadow ++ extra := by
  obtain ⟨tableConfig, enabled, detected, rewritten⟩ := rewriteQuery_insert_inv first
  rw [Statement.insert.injEq] at rewritten
  have sameTable : newStmt.table = stmt.table := by rw [rewritten]; rfl
  have columns : newStmt.columns = stmt.columns ++ shadowColumnsOf tableConfig stmt.columns := by
    rw [rewritten, rewriteInsert_columns enabled]
  have enabledAgain :
      (Parser.mk config.tables).enabledTable? newStmt.table.format = some tableConfig := by
    rw [sameTable, enabled]
  have detectedAgain : currencyColumnsOf tableConfig newStmt.columns ≠ [] := by
    rw [columns, currencyColumnsOf, List.filter_append]
    exact fun empty => detected (List.append_eq_nil.mp empty).1
  refine ⟨shadowColumnsOf tableConfig stmt.columns,
    shadowColumnsOf tableConfig (shadowColumnsOf tableConfig stmt.columns), _,
    shadowColumnsOf_ne_nil detected, columns, rewriteQuery_insert enabledAgain detectedAgain, ?_⟩
  simp only [rewriteInsert_columns enabledAgain, columns, shadowColumnsOf_append, List.append_assoc]

theorem rewriteQuery_update_inv [Keywords] {config : Config} {stmt : Update}
    {newStmt : Statement}
    (rewritten : rewriteQuery config (some (.update stmt)) = .rewritten newStmt) :
    ∃ tableConfig,
      (Parser.mk config.tables).enabledTable? (updateTableName stmt.tableExprs) =
          some tableConfig ∧
        currencyColumnsOf tableConfig (stmt.exprs.map (·.name.name)) ≠ [] ∧
        newStmt = .update (rewriteUpdate stmt ((Parser.mk config.tables).parse (.update stmt))
          tableConfig (convertValues config.conversion.ratio
            ((Parser.mk config.tables).parse (.update stmt)).values)) := by
  cases enabled : (Parser.mk config.tables).enabledTable? (updateTableName stmt.tableExprs) with
  | none =>
      simp [rewriteQuery, parse_update_of_disabled enabled] at rewritten
  | some tableConfig =>
      by_cases detected : currencyColumnsOf tableConfig (stmt.exprs.map (·.name.name)) = []
      · simp [rewriteQuery, (parse_update enabled).2.1, detected] at rewritten
      · rw [rewriteQuery_update enabled detected, Forwarded.rewritten.injEq] at rewritten
        exact ⟨tableConfig, rfl, detected, rewritten.symm⟩

theorem convertValues_isSome {ratio : Int} {values : Values} {col : String} :
    (convertValues ratio values col).isSome ↔ ∃ text, values col = some (.string text) := by
  unfold convertValues
  split <;> simp_all

theorem assignedValues_string [Keywords] {tableConfig : TableConfig} {col : String}
    {more : List UpdateExpr}
    (literals : ∀ expr ∈ more, ∃ val, expr.expr = .sqlVal .floatVal val) {values : Values}
    (string : ∃ text, values col = some (.string text)) :
    ∃ text, assignedValues tableConfig values more col = some (.string text) := by
  induction more generalizing values with
  | nil => exact string
  | cons expr rest inductionHypothesis =>
      obtain ⟨val, literal⟩ := literals expr (List.mem_cons_self _ _)
      refine inductionHypothesis (fun e member => literals e (List.mem_cons_of_mem _ member)) ?_
      split_ifs
      · by_cases same : col = expr.name.name
        · simp [same, literal, extractValue]
        · simpa [same] using string
      · exact string

theorem shadowAssignments_literals (tableConfig : TableConfig) (pq : ParsedQuery)
    (convertedValues : String → Option ℚ) :
    ∀ expr ∈ shadowAssignments tableConfig pq convertedValues,
      ∃ val, expr.expr = .sqlVal .floatVal val := by
  intro expr member
  simp only [shadowAssignments, List.mem_filterMap, Option.bind_eq_some,
    Option.map_eq_some'] at member
  obtain ⟨_, _, _, _, _, _, rfl⟩ := member
  exact ⟨_, rfl⟩

theorem shadowAssignments_names (tableConfig : TableConfig) (pq : ParsedQuery)
    (convertedValues : String → Option ℚ) :
    (shadowAssignments tableConfig pq convertedValues).map (·.name.name) =
      (pq.currencyColumns.filter fun col => (convertedValues col).isSome).filterMap
        fun col => (tableConfig.columns.get? col).map ColumnConfig.targetColumn := by
  unfold shadowAssignments
  induction pq.currencyColumns with
  | nil => rfl
  | cons col rest inductionHypothesis =>
      cases converted : convertedValues col <;> cases configured : tableConfig.columns.get? col <;>
        simp_all [List.filterMap_cons, List.filter_cons]

theorem rewriteQuery_update_again [Keywords] {config : Config} {stmt newStmt : Update}
    (first : rewriteQuery config (some (.update stmt)) = .rewritten (.update newStmt)) :
    ∃ shadow appended again, newStmt.exprs = stmt.exprs ++ shadow ∧
      rewriteQuery config (some (.update newStmt)) = .rewritten (.update again) ∧
      again.exprs = newStmt.exprs ++ appended ∧
      (shadow.map (·.name.name)).Sublist (appended.map (·.name.name)) := by
  obtain ⟨tableConfig, enabled, detected, rewritten⟩ := rewriteQuery_update_inv first
  rw [Statement.update.injEq] at rewritten
  set pq := (Parser.mk config.tables).parse (.update stmt)
  set shadow := shadowAssignments tableConfig pq (convertValues config.conversion.ratio pq.values)
  have sameTables : newStmt.tableExprs = stmt.tableExprs := by rw [rewritten]; rfl
  have exprs : newStmt.exprs = stmt.exprs ++ shadow := by rw [rewritten]; rfl
  have enabledAgain : (Parser.mk config.tables).enabledTable? (updateTableName newStmt.tableExprs) =
      some tableConfig := by
    rw [sameTables, enabled]
  have columnsAgain : currencyColumnsOf tableConfig (newStmt.exprs.map (·.name.name)) =
      pq.currencyColumns ++ currencyColumnsOf tableConfig (shadow.map (·.name.name)) := by
    rw [exprs, List.map_append, currencyColumnsOf, List.filter_append, (parse_update enabled).1]
    rfl
  have detectedAgain : currencyColumnsOf tableConfig (newStmt.exprs.map (·.name.name)) ≠ [] := by
    rw [columnsAgain, (parse_update enabled).1]
    exact fun empty => detected (List.append_eq_nil.mp empty).1
  have convertedAgain : ∀ col, (convertValues config.conversion.ratio pq.values col).isSome →
      (convertValues config.conversion.ratio
        ((Parser.mk config.tables).parse (.update newStmt)).values col).isSome := by
    intro col converted
    rw [convertValues_isSome] at converted ⊢
    rw [(parse_update enabledAgain).2.2.2.2, exprs, assignedValues_append,
      ← (parse_update enabled).2.2.2.2]
    exact assignedValues_string (shadowAssignments_literals _ _ _) converted
  refine ⟨shadow, _, _, exprs, rewriteQuery_update enabledAgain detectedAgain, rfl, ?_⟩
  rw [shadowAssignments_names, shadowAssignments_names, (parse_update enabledAgain).1, columnsAgain,
    List.filter_append]
  exact ((List.monotone_filter_right _ convertedAgain).trans
    (List.sublist_append_left _ _)).filterMap _

/-- A forwarded statement is rewritten again when it is sent again. -/
theorem rewriteQuery_rewrites_forwarded_statement_again [Keywords] (config : Config) :
    (∀ stmt newStmt : Insert,
      rewriteQuery config (some (.insert stmt)) = .rewritten (.insert newStmt) →
      ∃ shadow extra again, shadow ≠ [] ∧ newStmt.columns = stmt.columns ++ shadow ∧
        rewriteQuery config (some (.insert newStmt)) = .rewritten (.insert again) ∧
        again.columns = newStmt.columns ++ shadow ++ extra) ∧
      (∀ stmt newStmt : Update,
        rewriteQuery config (some (.update stmt)) = .rewritten (.update newStmt) →
        ∃ shadow appended again, newStmt.exprs = stmt.exprs ++ shadow ∧
          rewriteQuery config (some (.update newStmt)) = .rewritten (.update again) ∧
          again.exprs = newStmt.exprs ++ appended ∧
          (shadow.map (·.name.name)).Sublist (appended.map (·.name.name))) :=
  ⟨fun _ _ => rewriteQuery_insert_again, fun _ _ => rewriteQuery_update_again⟩

def ordersUpdate : Update :=
  ⟨[.aliased (.tableName ⟨"orders", ""⟩)],
    [⟨⟨"total_amount", ⟨"", ""⟩⟩, .sqlVal .intVal "750000"⟩]⟩

attribute [local instance] someKeywords in
theorem rewriteQuery_rewrites_forwarded_update_again :
    let forwarded : Update := { ordersUpdate with
      exprs := ordersUpdate.exprs ++
        [⟨⟨"total_amount_idn", ⟨"", ""⟩⟩, .sqlVal .floatVal "750.0000"⟩] }
    rewriteQuery testConfig (some (.update ordersUpdate)) = .rewritten (.update forwarded) ∧
      ∃ shadow appended again, forwarded.exprs = ordersUpdate.exprs ++ shadow ∧
        rewriteQuery testConfig (some (.update forwarded)) = .rewritten (.update again) ∧
        again.exprs = forwarded.exprs ++ appended ∧
        (shadow.map (·.name.name)).Sublist (appended.map (·.name.name)) := by
  have enabled : (Parser.mk testConfig.tables).enabledTable?
      (updateTableName ordersUpdate.tableExprs) = some ordersTestConfig := rfl
  have scanned : sscanFloat "750000" = some 750000 := by
    simp [sscanFloat, show skipSpace "750000".data = some "750000".data by decide,
      show scanDecimal "750000".data = some ⟨false, 750000, 0, 0⟩ by decide, Decimal.toRat]
  have converted : (750000 : ℚ) / 1000 = 750 := by norm_num
  have first : rewriteQuery testConfig (some (.update ordersUpdate)) =
      .rewritten (.update { ordersUpdate with
        exprs := ordersUpdate.exprs ++
          [⟨⟨"total_amount_idn", ⟨"", ""⟩⟩, .sqlVal .floatVal "750.0000"⟩] }) := by
    have detected : currencyColumnsOf ordersTestConfig (ordersUpdate.exprs.map (·.name.name)) =
        ["total_amount"] := by
      decide
    obtain ⟨currency, -, -, -, values⟩ := parse_update enabled
    rw [rewriteQuery_update enabled (by decide)]
    simp only [rewriteUpdate, shadowAssignments, currency, values, detected]
    simp [ordersUpdate, assignedValues, convertValues, extractValue, scanned, converted,
      shadowLiteral, testConfig, ordersTestConfig, GoMap.get?]
    decide
  exact ⟨first, (rewriteQuery_rewrites_forwarded_statement_again testConfig).2 _ _ first⟩

def ordersInsert : Insert :=
  ⟨⟨"orders", ""⟩, ["customer_id", "total_amount"],
    .values [[.sqlVal .intVal "1", .sqlVal .intVal "500000"]]⟩

attribute [local instance] someKeywords in
theorem rewriteQuery_assigns_target_column_twice :
    let forwarded : Insert := { ordersInsert with
      columns := ["customer_id", "total_amount", "total_amount_idn"]
      rows := .values
        [[.sqlVal .intVal "1", .sqlVal .intVal "500000", .sqlVal .floatVal "500.0000"]] }
    rewriteQuery testConfig (some (.insert ordersInsert)) = .rewritten (.insert forwarded) ∧
      rewriteQuery testConfig (some (.insert forwarded)) =
        .rewritten (.insert { forwarded with
          columns := ["customer_id", "total_amount", "total_amount_idn", "total_amount_idn"]
          rows := .values [[.sqlVal .intVal "1", .sqlVal .intVal "500000",
            .sqlVal .floatVal "500.0000", .sqlVal .floatVal "500.0000"]] }) := by
  have scanned : sscanFloat "500000" = some 500000 := by
    simp [sscanFloat, show skipSpace "500000".data = some "500000".data by decide,
      show scanDecimal "500000".data = some ⟨false, 500000, 0, 0⟩ by decide, Decimal.toRat]
  have converted : (500000 : ℚ) / 1000 = 500 := by norm_num
  intro forwarded
  have enabled : (Parser.mk testConfig.tables).enabledTable? ordersInsert.table.format =
      some ordersTestConfig := rfl
  have enabledAgain : (Parser.mk testConfig.tables).enabledTable? forwarded.table.format =
      some ordersTestConfig := rfl
  have detected : currencyColumnsOf ordersTestConfig ordersInsert.columns = ["total_amount"] := by
    decide
  have detectedAgain : currencyColumnsOf ordersTestConfig forwarded.columns = ["total_amount"] := by
    decide
  obtain ⟨currency, -, -, -, values⟩ := parse_insert enabled
  obtain ⟨currencyAgain, -, -, -, valuesAgain⟩ := parse_insert enabledAgain
  rw [rewriteQuery_insert enabled (by decide), rewriteQuery_insert enabledAgain (by decide)]
  simp only [rewriteInsert, shadowColumns, shadowValues, currency, values, currencyAgain,
    valuesAgain, detected, detectedAgain]
  simp [forwarded, ordersInsert, firstRowValues, collectRowValues, convertValues, extractValue,
    scanned, converted, shadowLiteral, testConfig, ordersTestConfig, GoMap.get?]
  decide

/-! ## Which statements pass through -/

/-- The statements `handleQuery` rewrites, as the analysers of `Parser.Parse` find them. -/
def isDualWriteCandidate [Keywords] (config : Config) : Statement → Bool
  | .insert stmt =>
      match (Parser.mk config.tables).enabledTable? stmt.table.format with
      | some tableConfig => !(currencyColumnsOf tableConfig stmt.columns).isEmpty
      | none => false
  | .update stmt =>
      match (Parser.mk config.tables).enabledTable? (updateTableName stmt.tableExprs) with
      | some tableConfig =>
          !(currencyColumnsOf tableConfig (stmt.exprs.map (·.name.name))).isEmpty
      | none => false
  | _ => false

theorem rewriteQuery_eq_original_iff [Keywords] (config : Config) (stmt : Statement) :
    rewriteQuery config (some stmt) = .original ↔ isDualWriteCandidate config stmt = false := by
  cases stmt with
  | insert stmt =>
      cases enabled : (Parser.mk config.tables).enabledTable? stmt.table.format with
      | none => simp [isDualWriteCandidate, enabled, rewriteQuery, parse_insert_of_disabled enabled]
      | some tableConfig =>
          by_cases detected : currencyColumnsOf tableConfig stmt.columns = []
          · simp [isDualWriteCandidate, enabled, detected, rewriteQuery,
              (parse_insert enabled).2.1]
          · simp [isDualWriteCandidate, enabled, detected, rewriteQuery_insert enabled detected]
  | update stmt =>
      cases enabled : (Parser.mk config.tables).enabledTable? (updateTableName stmt.tableExprs) with
      | none => simp [isDualWriteCandidate, enabled, rewriteQuery, parse_update_of_disabled enabled]
      | some tableConfig =>
          by_cases detected : currencyColumnsOf tableConfig (stmt.exprs.map (·.name.name)) = []
          · simp [isDualWriteCandidate, enabled, detected, rewriteQuery,
              (parse_update enabled).2.1]
          · simp [isDualWriteCandidate, enabled, detected, rewriteQuery_update enabled detected]
  | _ => simp [isDualWriteCandidate, rewriteQuery, Parser.parse]

def refundsUpdate : Update :=
  ⟨[.aliased (.tableName ⟨"orders", ""⟩), .aliased (.tableName ⟨"refunds", ""⟩)],
    [⟨⟨"total_amount", ⟨"refunds", ""⟩⟩, .sqlVal .intVal "0"⟩]⟩

/-- An assignment to another table's column is rewritten as one of the first table. -/
theorem rewriteQuery_rewrites_other_table_assignment [Keywords] :
    ∃ newStmt : Update,
      rewriteQuery testConfig (some (.update refundsUpdate)) = .rewritten (.update newStmt) ∧
        newStmt.exprs.map (·.name) =
          [⟨"total_amount", ⟨"refunds", ""⟩⟩, ⟨"total_amount_idn", ⟨"", ""⟩⟩] := by
  have enabled : (Parser.mk testConfig.tables).enabledTable?
      (updateTableName refundsUpdate.tableExprs) = some ordersTestConfig := rfl
  exact ⟨_, rewriteQuery_update enabled (by decide), rfl⟩

end TransisiDB.Proxy
