import TransisiDB.Config
import TransisiDB.Rounding.Decimal
import TransisiDB.Sql.Ast

set_option autoImplicit false

/-!
# The query analyser and the dual-write rewriter

`internal/parser/parser.go`.  `Parser.parse` starts from the statement `sqlparser.Parse`
returned; a text the library rejects never reaches it.  The rewriter's result is the
statement whose `sqlparser.String` it returns, or the original text.
-/

namespace TransisiDB.Sql

section

variable [Keywords]

/-- A value of `ParsedQuery.Values` (an `interface{}` that `extractValue` filled). -/
inductive Value where
  | string (text : String)
  | bool (value : Bool)
  | nil

/-- `extractValue`: a literal's text, a boolean, `nil`, or the printed expression. -/
def extractValue : Expr → Value
  | .sqlVal .intVal val | .sqlVal .strVal val | .sqlVal .floatVal val => .string val
  | .boolVal value => .bool value
  | .nullVal => .nil
  | expr => .string expr.format

inductive QueryType where
  | unknown
  | select
  | insert
  | update
  | delete
  deriving DecidableEq, Repr

/-- `map[string]interface{}` of `ParsedQuery.Values`. -/
abbrev Values := String → Option Value

/-- `pq.Values[key] = value`. -/
def Values.set (values : Values) (key : String) (value : Value) : Values :=
  fun other => if other = key then some value else values other

omit [Keywords] in
@[simp]
theorem Values.set_apply (values : Values) (key other : String) (value : Value) :
    values.set key value other = if other = key then some value else values other := rfl

structure ParsedQuery where
  type : QueryType
  statement : Statement
  tableName : String
  currencyColumns : List String
  values : Values
  needsTransform : Bool

structure Parser where
  tableConfig : TablesConfig

namespace Parser

variable (p : Parser)

/-- The configuration of a table the rewriter transforms: configured and enabled. -/
def enabledTable? (tableName : String) : Option TableConfig :=
  match p.tableConfig.get? tableName with
  | some tableConfig => if tableConfig.enabled then some tableConfig else none
  | none => none

/-- The currency-column loop of `analyzeInsert`. -/
def collectCurrencyColumns (tableConfig : TableConfig) (pq : ParsedQuery) :
    List String → ParsedQuery
  | [] => pq
  | col :: rest =>
      collectCurrencyColumns tableConfig
        (if (tableConfig.columns.get? col).isSome then
          { pq with currencyColumns := pq.currencyColumns ++ [col], needsTransform := true }
        else pq) rest

/-- The value loop of `analyzeInsert` over the first row. -/
def collectRowValues (columns : List String) (values : Values) (row : List Expr) : Values :=
  (columns.zip row).foldl (fun values (col, val) => values.set col (extractValue val)) values

def analyzeInsert (stmt : Insert) (pq : ParsedQuery) : ParsedQuery :=
  let pq := { pq with tableName := stmt.table.format }
  match p.enabledTable? pq.tableName with
  | none => { pq with needsTransform := false }
  | some tableConfig =>
      let pq := collectCurrencyColumns tableConfig pq stmt.columns
      match stmt.rows with
      | .values (row :: _) =>
          if stmt.columns = [] then pq
          else { pq with values := collectRowValues stmt.columns pq.values row }
      | _ => pq

/-- The `SET` loop of `analyzeUpdate`. -/
def collectAssignments (tableConfig : TableConfig) (pq : ParsedQuery) :
    List UpdateExpr → ParsedQuery
  | [] => pq
  | expr :: rest =>
      let colName := expr.name.name
      collectAssignments tableConfig
        (if (tableConfig.columns.get? colName).isSome then
          { pq with
            currencyColumns := pq.currencyColumns ++ [colName]
            values := pq.values.set colName (extractValue expr.expr)
            needsTransform := true }
        else pq) rest

/-- The table name the analysers read from the first table expression. -/
def firstTableName (pq : ParsedQuery) : List TableExpr → ParsedQuery
  | .aliased (.tableName table) :: _ => { pq with tableName := table.name }
  | _ => pq

/-- The table name `firstTableName` records on a query that has none yet. -/
def updateTableName : List TableExpr → String
  | .aliased (.tableName table) :: _ => table.name
  | _ => ""

omit [Keywords] in
theorem firstTableName_eq {pq : ParsedQuery} (unnamed : pq.tableName = "")
    (tableExprs : List TableExpr) :
    firstTableName pq tableExprs = { pq with tableName := updateTableName tableExprs } := by
  unfold firstTableName updateTableName
  split <;> cases pq <;> simp_all

def analyzeUpdate (stmt : Update) (pq : ParsedQuery) : ParsedQuery :=
  let pq := firstTableName pq stmt.tableExprs
  match p.enabledTable? pq.tableName with
  | none => { pq with needsTransform := false }
  | some tableConfig => collectAssignments tableConfig pq stmt.exprs

/-- `Parser.Parse` on the statement `sqlparser.Parse` produced. -/
def parse (stmt : Statement) : ParsedQuery :=
  let pq : ParsedQuery :=
    { type := .unknown, statement := stmt, tableName := "", currencyColumns := []
      values := fun _ => none, needsTransform := false }
  match stmt with
  | .select fromExprs => { firstTableName { pq with type := .select } fromExprs with
      needsTransform := false }
  | .insert insert => p.analyzeInsert insert { pq with type := .insert }
  | .update update => p.analyzeUpdate update { pq with type := .update }
  | .delete tableExprs => { firstTableName { pq with type := .delete } tableExprs with
      needsTransform := false }
  | .other => pq

/-! ## What the analysis detects -/

/-- The configured source columns among `columns`, in their order. -/
def currencyColumnsOf (tableConfig : TableConfig) (columns : List String) : List String :=
  columns.filter fun col => (tableConfig.columns.get? col).isSome

omit [Keywords] in
theorem mem_currencyColumnsOf {tableConfig : TableConfig} {columns : List String}
    {col : String} :
    col ∈ currencyColumnsOf tableConfig columns ↔ col ∈ columns ∧ col ∈ tableConfig.columns.keys := by
  simp [currencyColumnsOf, ← GoMap.get?_isSome_iff]

omit [Keywords] in
theorem collectCurrencyColumns_eq (tableConfig : TableConfig) (pq : ParsedQuery)
    (columns : List String) :
    collectCurrencyColumns tableConfig pq columns =
      { pq with
        currencyColumns := pq.currencyColumns ++ currencyColumnsOf tableConfig columns
        needsTransform := pq.needsTransform || !(currencyColumnsOf tableConfig columns).isEmpty } := by
  induction columns generalizing pq with
  | nil => simp [collectCurrencyColumns, currencyColumnsOf]
  | cons col rest inductionHypothesis =>
      by_cases configured : (tableConfig.columns.get? col).isSome <;>
        simp [collectCurrencyColumns, currencyColumnsOf, configured, inductionHypothesis]

/-- The values the `SET` loop of `analyzeUpdate` records. -/
def assignedValues (tableConfig : TableConfig) (values : Values) : List UpdateExpr → Values
  | [] => values
  | expr :: rest =>
      assignedValues tableConfig
        (if (tableConfig.columns.get? expr.name.name).isSome then
          values.set expr.name.name (extractValue expr.expr)
        else values) rest

theorem assignedValues_append (tableConfig : TableConfig) (values : Values)
    (exprs more : List UpdateExpr) :
    assignedValues tableConfig values (exprs ++ more) =
      assignedValues tableConfig (assignedValues tableConfig values exprs) more := by
  induction exprs generalizing values with
  | nil => rfl
  | cons expr rest inductionHypothesis => exact inductionHypothesis _

theorem collectAssignments_eq (tableConfig : TableConfig) (pq : ParsedQuery)
    (exprs : List UpdateExpr) :
    collectAssignments tableConfig pq exprs =
      { pq with
        currencyColumns := pq.currencyColumns ++ currencyColumnsOf tableConfig (exprs.map (·.name.name))
        values := assignedValues tableConfig pq.values exprs
        needsTransform := pq.needsTransform ||
          !(currencyColumnsOf tableConfig (exprs.map (·.name.name))).isEmpty } := by
  induction exprs generalizing pq with
  | nil => simp [collectAssignments, assignedValues, currencyColumnsOf]
  | cons expr rest inductionHypothesis =>
      by_cases configured : (tableConfig.columns.get? expr.name.name).isSome <;>
        simp [collectAssignments, assignedValues, currencyColumnsOf, configured,
          inductionHypothesis]

/-- The values `analyzeInsert` records: those of the first `VALUES` row, by position. -/
def firstRowValues (stmt : Insert) : Values :=
  match stmt.rows with
  | .values (row :: _) => collectRowValues stmt.columns (fun _ => none) row
  | _ => fun _ => none

variable {p}

theorem parse_insert {stmt : Insert} {tableConfig : TableConfig}
    (enabled : p.enabledTable? stmt.table.format = some tableConfig) :
    (p.parse (.insert stmt)).currencyColumns = currencyColumnsOf tableConfig stmt.columns ∧
      (p.parse (.insert stmt)).needsTransform =
        !(currencyColumnsOf tableConfig stmt.columns).isEmpty ∧
      (p.parse (.insert stmt)).tableName = stmt.table.format ∧
      (p.parse (.insert stmt)).statement = .insert stmt ∧
      (p.parse (.insert stmt)).values = firstRowValues stmt := by
  simp only [parse, analyzeInsert, enabled, collectCurrencyColumns_eq, firstRowValues]
  split <;> (try split) <;> simp_all [collectRowValues]

theorem parse_insert_of_disabled {stmt : Insert}
    (disabled : p.enabledTable? stmt.table.format = none) :
    (p.parse (.insert stmt)).needsTransform = false := by
  simp [parse, analyzeInsert, disabled]

theorem parse_update {stmt : Update} {tableConfig : TableConfig}
    (enabled : p.enabledTable? (updateTableName stmt.tableExprs) = some tableConfig) :
    (p.parse (.update stmt)).currencyColumns =
        currencyColumnsOf tableConfig (stmt.exprs.map (·.name.name)) ∧
      (p.parse (.update stmt)).needsTransform =
        !(currencyColumnsOf tableConfig (stmt.exprs.map (·.name.name))).isEmpty ∧
      (p.parse (.update stmt)).tableName = updateTableName stmt.tableExprs ∧
      (p.parse (.update stmt)).statement = .update stmt ∧
      (p.parse (.update stmt)).values = assignedValues tableConfig (fun _ => none) stmt.exprs := by
  simp [parse, analyzeUpdate, firstTableName_eq, enabled, collectAssignments_eq]

theorem parse_update_of_disabled {stmt : Update}
    (disabled : p.enabledTable? (updateTableName stmt.tableExprs) = none) :
    (p.parse (.update stmt)).needsTransform = false := by
  simp [parse, analyzeUpdate, firstTableName_eq, disabled]

/-- Column detection compares names exactly: another letter case is not detected. -/
theorem parse_detects_exact_column_names {name : String} (plain : formatID name = name)
    {tableConfig : TableConfig} (enabled : p.enabledTable? name = some tableConfig)
    (columns : List String) (rows : InsertRows) (qualifier : String) (rest : List TableExpr)
    (exprs : List UpdateExpr) :
    let insert := p.parse (.insert ⟨⟨name, ""⟩, columns, rows⟩)
    let update := p.parse (.update ⟨.aliased (.tableName ⟨name, qualifier⟩) :: rest, exprs⟩)
    (∀ col, col ∈ insert.currencyColumns ↔ col ∈ columns ∧ col ∈ tableConfig.columns.keys) ∧
      (insert.needsTransform = true ↔ ∃ col ∈ columns, col ∈ tableConfig.columns.keys) ∧
      (∀ col, col ∈ update.currencyColumns ↔
        col ∈ exprs.map (·.name.name) ∧ col ∈ tableConfig.columns.keys) ∧
      (update.needsTransform = true ↔ ∃ expr ∈ exprs, expr.name.name ∈ tableConfig.columns.keys) := by
  have printed : TableName.format ⟨name, ""⟩ = name := by
    by_cases empty : name = "" <;> simp [TableName.format, empty, plain]
  obtain ⟨insertCurrency, insertNeeds, -, -, -⟩ :=
    @parse_insert _ p ⟨⟨name, ""⟩, columns, rows⟩ tableConfig (by rw [printed]; exact enabled)
  obtain ⟨updateCurrency, updateNeeds, -, -, -⟩ :=
    @parse_update _ p ⟨.aliased (.tableName ⟨name, qualifier⟩) :: rest, exprs⟩ tableConfig enabled
  refine ⟨fun col => ?_, ?_, fun col => ?_, ?_⟩
  · rw [insertCurrency, mem_currencyColumnsOf]
  · simp [insertNeeds, List.isEmpty_iff, List.eq_nil_iff_forall_not_mem, mem_currencyColumnsOf]
  · rw [updateCurrency, mem_currencyColumnsOf]
  · simp [updateNeeds, List.isEmpty_iff, List.eq_nil_iff_forall_not_mem, mem_currencyColumnsOf]

/-! ## Rewriting -/

/-- The literal `sqlparser.NewFloatVal([]byte(fmt.Sprintf("%.4f", v)))`. -/
def shadowLiteral (value : ℚ) : Expr :=
  .sqlVal .floatVal (sprintfFixed 4 value)

/-- The shadow values `rewriteInsert` appends to each row. -/
def shadowValues (pq : ParsedQuery) (convertedValues : String → Option ℚ) : List Expr :=
  pq.currencyColumns.filterMap fun currencyCol => (convertedValues currencyCol).map shadowLiteral

/-- The shadow columns `rewriteInsert` appends to the column list. -/
def shadowColumns (tableConfig : TableConfig) (pq : ParsedQuery) : List String :=
  pq.currencyColumns.filterMap fun currencyCol =>
    (tableConfig.columns.get? currencyCol).map ColumnConfig.targetColumn

def rewriteInsert (stmt : Insert) (pq : ParsedQuery) (tableConfig : TableConfig)
    (convertedValues : String → Option ℚ) : Insert :=
  { stmt with
    columns := stmt.columns ++ shadowColumns tableConfig pq
    rows := match stmt.rows with
      | .values rows => .values (rows.map fun row => row ++ shadowValues pq convertedValues)
      | rows => rows }

/-- The assignments `rewriteUpdate` appends. -/
def shadowAssignments (tableConfig : TableConfig) (pq : ParsedQuery)
    (convertedValues : String → Option ℚ) : List UpdateExpr :=
  pq.currencyColumns.filterMap fun currencyCol =>
    (tableConfig.columns.get? currencyCol).bind fun colConfig =>
      (convertedValues currencyCol).map fun convertedValue =>
        ⟨⟨colConfig.targetColumn, ⟨"", ""⟩⟩, shadowLiteral convertedValue⟩

def rewriteUpdate (stmt : Update) (pq : ParsedQuery) (tableConfig : TableConfig)
    (convertedValues : String → Option ℚ) : Update :=
  { stmt with exprs := stmt.exprs ++ shadowAssignments tableConfig pq convertedValues }

/-- The text `RewriteForDualWrite` returns: the original query, or a printed statement. -/
inductive Rewritten where
  | original
  | statement (stmt : Statement)

/-- `Parser.RewriteForDualWrite`; an unconfigured table reads as the zero `TableConfig`. -/
def rewriteForDualWrite (pq : ParsedQuery) (convertedValues : String → Option ℚ) :
    Rewritten :=
  if !pq.needsTransform then .original
  else
    let tableConfig := (p.tableConfig.get? pq.tableName).getD ⟨false, GoMap.empty⟩
    match pq.statement with
    | .insert stmt => .statement (.insert (rewriteInsert stmt pq tableConfig convertedValues))
    | .update stmt => .statement (.update (rewriteUpdate stmt pq tableConfig convertedValues))
    | _ => .original

def ordersTestConfig : TableConfig :=
  ⟨true, ⟨[("total_amount", ⟨"total_amount_idn", "BANKERS_ROUND", 4⟩),
    ("shipping_fee", ⟨"shipping_fee_idn", "BANKERS_ROUND", 4⟩)], by decide⟩⟩

def getTestConfig : TablesConfig :=
  ⟨[("orders", ordersTestConfig),
      ("invoices", ⟨true, ⟨[("grand_total", ⟨"grand_total_idn", "BANKERS_ROUND", 4⟩)],
        by decide⟩⟩)], by decide⟩

end Parser

end

namespace Parser

attribute [local instance] someKeywords

theorem parse_detects_exact_column_names_orders :
    formatID "orders" = "orders" ∧
      (Parser.mk getTestConfig).enabledTable? "orders" = some ordersTestConfig ∧
      let insert := (Parser.mk getTestConfig).parse
        (.insert ⟨⟨"orders", ""⟩, ["customer_id", "total_amount"], .values []⟩)
      let update := (Parser.mk getTestConfig).parse
        (.update ⟨[.aliased (.tableName ⟨"orders", "ecommerce_db"⟩)], []⟩)
      (∀ col, col ∈ insert.currencyColumns ↔
          col ∈ ["customer_id", "total_amount"] ∧ col ∈ ordersTestConfig.columns.keys) ∧
        (insert.needsTransform = true ↔
          ∃ col ∈ ["customer_id", "total_amount"], col ∈ ordersTestConfig.columns.keys) ∧
        (∀ col, col ∈ update.currencyColumns ↔
          col ∈ ([] : List UpdateExpr).map (·.name.name) ∧ col ∈ ordersTestConfig.columns.keys) ∧
        (update.needsTransform = true ↔
          ∃ expr ∈ ([] : List UpdateExpr), expr.name.name ∈ ordersTestConfig.columns.keys) := by
  have plain : formatID "orders" = "orders" := by decide
  have enabled : (Parser.mk getTestConfig).enabledTable? "orders" = some ordersTestConfig := rfl
  exact ⟨plain, enabled, parse_detects_exact_column_names plain enabled _ _ _ [] []⟩

theorem parse_misses_upper_case_column :
    ((Parser.mk getTestConfig).parse (.insert ⟨⟨"orders", ""⟩, ["customer_id", "TOTAL_AMOUNT"],
      .values [[.sqlVal .intVal "1", .sqlVal .intVal "500000"]]⟩)).needsTransform = false := by
  decide

end Parser

end TransisiDB.Sql
