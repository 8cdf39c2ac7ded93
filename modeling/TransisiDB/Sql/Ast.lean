import Mathlib.Data.List.Basic

set_option autoImplicit false

/-!
# Statements as `sqlparser` returns them

The part of the `github.com/xwb1989/sqlparser` syntax tree the rewriter reads or builds,
and the two printers it calls: `sqlparser.String` on a table name and on an expression.

Identifiers are stored as the parser stores them, with their backticks removed.  The
printer's `formatID` quotes an identifier that is not a plain name or that is in the
library's keyword table; the table is not part of this repository, so it is the class
`Keywords` and every result holds whatever words it holds.  Expression nodes the rewriter
never looks inside (comparisons, subqueries, `CASE`, ...) are `Expr.other` with the text the
printer gives them.
-/

namespace TransisiDB.Sql

/-- The literal kinds of `sqlparser.SQLVal`. -/
inductive ValType where
  | strVal
  | intVal
  | floatVal
  | hexNum
  | hexVal
  | valArg
  | bitVal
  deriving DecidableEq, Repr

/-- `sqlparser.TableName`; an empty `qualifier` is a name without a database. -/
structure TableName where
  name : String
  qualifier : String
  deriving DecidableEq, Repr

/-- `sqlparser.ColName`: a column identifier and its optional table qualifier. -/
structure ColName where
  name : String
  qualifier : TableName
  deriving DecidableEq, Repr

inductive Expr where
  | sqlVal (type : ValType) (val : String)
  | nullVal
  | boolVal (value : Bool)
  | colName (column : ColName)
  | default
  | paren (inner : Expr)
  | unary (operator : String) (operand : Expr)
  | binary (operator : String) (left right : Expr)
  | funcExpr (name : String) (arguments : List Expr)
  | other (text : String)

inductive SimpleTableExpr where
  | tableName (table : TableName)
  | subquery

/-- `sqlparser.TableExpr`; only an aliased table expression names a table directly. -/
inductive TableExpr where
  | aliased (expr : SimpleTableExpr)
  | paren
  | join

/-- `sqlparser.InsertRows`: a `VALUES` list, or a `SELECT` given by its select list. -/
inductive InsertRows where
  | values (rows : List (List Expr))
  | select (selectExprs : List Expr)

/-- `sqlparser.Insert`; `columns` is empty when the statement has no column list. -/
structure Insert where
  table : TableName
  columns : List String
  rows : InsertRows

/-- `sqlparser.UpdateExpr`: one `column = expr` assignment of a `SET` clause. -/
structure UpdateExpr where
  name : ColName
  expr : Expr

structure Update where
  tableExprs : List TableExpr
  exprs : List UpdateExpr

/-- `sqlparser.Statement`, by the kinds `Parser.Parse` tells apart. -/
inductive Statement where
  | select (fromExprs : List TableExpr)
  | insert (stmt : Insert)
  | update (stmt : Update)
  | delete (tableExprs : List TableExpr)
  | other

/-! ## Printing -/

/-- `isLetter` of the sqlparser tokenizer. -/
def isIdentLetter (c : Char) : Bool :=
  ('a' ≤ c && c ≤ 'z') || ('A' ≤ c && c ≤ 'Z') || c = '_' || c = '@'

/-- `isCarat` of the sqlparser tokenizer. -/
def isCarat (c : Char) : Bool :=
  c = '.' || c = '\'' || c = '"' || c = '`'

/-- Whether `formatID` prints an identifier without quotes. -/
def isPlainIdent (original : String) : Bool :=
  let systemVariable := original.data.take 2 = ['@', '@']
  original.data.enum.all fun (index, c) =>
    isIdentLetter c || (systemVariable && isCarat c) || (index ≠ 0 && c.isDigit)

/-- sqlparser's package-level `keywords` map, read by the printer. -/
class Keywords where
  contains : String → Bool

def someKeywords : Keywords :=
  ⟨fun word => word ∈ ["by", "from", "group", "insert", "key", "order", "select", "set",
    "table", "update", "values", "where"]⟩

/-- `strings.ToLower` of an identifier; `formatID` only looks a plain (ASCII) name up. -/
def lowered (original : String) : String :=
  ⟨original.data.map Char.toLower⟩

variable [Keywords]

/-- `formatID`: an identifier, backquoted unless it is plain and not a keyword. -/
def formatID (original : String) : String :=
  if isPlainIdent original && !Keywords.contains (lowered original) then original
  else "`" ++ ⟨original.data.flatMap fun c => if c = '`' then ['`', '`'] else [c]⟩ ++ "`"

/-- `sqlparser.String` of a `TableName`. -/
def TableName.format (table : TableName) : String :=
  if table.name = "" then ""
  else if table.qualifier = "" then formatID table.name
  else formatID table.qualifier ++ "." ++ formatID table.name

theorem formatID_of_plain {original : String} (plain : isPlainIdent original = true)
    (notKeyword : Keywords.contains (lowered original) = false) : formatID original = original := by
  simp [formatID, plain, notKeyword]

theorem formatID_of_keyword {original : String}
    (keyword : Keywords.contains (lowered original) = true) :
    formatID original =
      "`" ++ ⟨original.data.flatMap fun c => if c = '`' then ['`', '`'] else [c]⟩ ++ "`" := by
  simp [formatID, keyword]

theorem TableName.format_unqualified {name : String} (nonempty : name ≠ "") :
    TableName.format ⟨name, ""⟩ = formatID name := by
  simp [TableName.format, nonempty]

/-- `sqltypes` `EncodeSQL` of a string literal: quoted, with backslash escapes. -/
def encodeSQL (val : String) : String :=
  let escape (c : Char) : List Char :=
    if c = '\x00' then ['\\', '0'] else if c = '\'' then ['\\', '\'']
    else if c = '"' then ['\\', '"'] else if c = '\x08' then ['\\', 'b']
    else if c = '\n' then ['\\', 'n'] else if c = '\r' then ['\\', 'r']
    else if c = '\t' then ['\\', 't'] else if c = '\x1a' then ['\\', 'Z']
    else if c = '\\' then ['\\', '\\'] else [c]
  "'" ++ ⟨val.data.flatMap escape⟩ ++ "'"

/-- `sqlparser.String` of a literal. -/
def formatSQLVal : ValType → String → String
  | .strVal, val => encodeSQL val
  | .intVal, val | .floatVal, val | .hexNum, val | .valArg, val => val
  | .hexVal, val => "X'" ++ val ++ "'"
  | .bitVal, val => "B'" ++ val ++ "'"

mutual

/-- `sqlparser.String` of an expression. -/
def Expr.format : Expr → String
  | .sqlVal type val => formatSQLVal type val
  | .nullVal => "null"
  | .boolVal value => if value then "true" else "false"
  | .colName column =>
      (if column.qualifier.name = "" then "" else column.qualifier.format ++ ".") ++
        formatID column.name
  | .default => "default"
  | .paren inner => "(" ++ inner.format ++ ")"
  | .unary operator operand@(.unary _ _) => operator ++ " " ++ operand.format
  | .unary operator operand => operator ++ operand.format
  | .binary operator left right => left.format ++ " " ++ operator ++ " " ++ right.format
  | .funcExpr name arguments => name ++ "(" ++ ", ".intercalate (Expr.formatList arguments) ++ ")"
  | .other text => text

/-- The printed arguments of a function call. -/
def Expr.formatList : List Expr → List String
  | [] => []
  | argument :: rest => argument.format :: Expr.formatList rest

end

end TransisiDB.Sql
