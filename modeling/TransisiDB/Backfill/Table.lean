import TransisiDB.Config
import TransisiDB.Rounding.Engine

set_option autoImplicit false

/-!
# The table a backfill runs on

The worker talks to the database through `database/sql`.  A table is a finite set of rows
with distinct ids, each row mapping every column name to a cell.  What the worker cannot
know in advance is `Backend`: the order in which the server returns the rows a `SELECT`
matches (the query has no `ORDER BY`), and which `UPDATE`s fail.

`Table.backfillOn` is what a backfill is for: the rows it has reached hold the converted
source in their target column, and no other cell changes.
-/

namespace TransisiDB.Backfill

/-- A cell: `NULL`, an integer, or a decimal. -/
inductive Cell where
  | null
  | integer (value : Int)
  | decimal (value : ℚ)
  deriving DecidableEq

/-- `IS NULL`. -/
def Cell.isNull : Cell → Bool
  | .null => true
  | _ => false

/-- A row: its `id` and its cells by column name. -/
structure Row where
  id : Int
  cells : String → Cell

namespace Row

/-- `rows.Scan` of a cell into an `int64`: an error unless it holds an integer. -/
def scan (row : Row) (column : String) : Option Int :=
  match row.cells column with
  | .integer value => some value
  | _ => none

/-- The row with one cell replaced. -/
def set (row : Row) (column : String) (cell : Cell) : Row :=
  { row with cells := fun other => if other = column then cell else row.cells other }

@[simp] theorem set_id (row : Row) (column : String) (cell : Cell) :
    (row.set column cell).id = row.id := rfl

@[simp] theorem set_cells (row : Row) (column other : String) (cell : Cell) :
    (row.set column cell).cells other = if other = column then cell else row.cells other := rfl

@[simp] theorem set_set (row : Row) (column : String) (cell : Cell) :
    (row.set column cell).set column cell = row.set column cell := by
  simp only [set, Row.mk.injEq, true_and]
  funext other
  split <;> rfl

variable (engine : Engine) (ratio : Int) (column target : String)

/-- A row once backfilled: a `NULL` target gets `ConvertIDRtoIDN` of the integer source. -/
def backfill (row : Row) : Row :=
  match row.scan column with
  | some value =>
      if (row.cells target).isNull then
        row.set target (.decimal (engine.convertIDRtoIDN value ratio))
      else row
  | none => row

@[simp] theorem backfill_id (row : Row) :
    (row.backfill engine ratio column target).id = row.id := by
  unfold backfill
  split
  · split <;> rfl
  · rfl

theorem backfill_of_scan {row : Row} {value : Int} (null : (row.cells target).isNull)
    (scanned : row.scan column = some value) :
    row.backfill engine ratio column target =
      row.set target (.decimal (engine.convertIDRtoIDN value ratio)) := by
  simp [backfill, scanned, null]

end Row

/-- A table: rows with distinct ids. -/
@[ext]
structure Table where
  rows : List Row
  ids_nodup : (rows.map Row.id).Nodup

namespace Table

variable (table : Table)

/-- Every row rewritten by a function that keeps its id. -/
def mapRows (f : Row → Row) (sameId : ∀ row, (f row).id = row.id) : Table :=
  ⟨table.rows.map f, by rw [List.map_map, show Row.id ∘ f = Row.id from funext sameId]; exact table.ids_nodup⟩

/-- The rows whose `column` is `NULL`, in the table's order. -/
def nullRows (column : String) : List Row :=
  table.rows.filter fun row => (row.cells column).isNull

/-- `SELECT COUNT(*) FROM table WHERE column IS NULL`. -/
def countNull (column : String) : Nat :=
  (table.nullRows column).length

/-- `UPDATE table SET column = cell WHERE id = id`. -/
def update (id : Int) (column : String) (cell : Cell) : Table :=
  table.mapRows (fun row => if row.id = id then row.set column cell else row)
    (fun row => by dsimp only; split <;> rfl)

variable {table}

theorem eq_of_id_eq {row other : Row} (member : row ∈ table.rows) (otherMember : other ∈ table.rows)
    (same : row.id = other.id) : row = other :=
  List.inj_on_of_nodup_map table.ids_nodup member otherMember same

theorem mem_update_of_ne {row : Row} {id : Int} {column : String} {cell : Cell}
    (member : row ∈ table.rows) (other : row.id ≠ id) : row ∈ (table.update id column cell).rows :=
  List.mem_map.mpr ⟨row, member, if_neg other⟩

private theorem countNull_map_update {row : Row} {column : String} {cell : Cell}
    (filled : cell.isNull = false) :
    ∀ {rows : List Row}, (rows.map Row.id).Nodup → row ∈ rows → (row.cells column).isNull →
      ((rows.map fun r => if r.id = row.id then r.set column cell else r).filter
          fun r => (r.cells column).isNull).length + 1 =
        (rows.filter fun r => (r.cells column).isNull).length
  | [], _, member, _ => absurd member (List.not_mem_nil _)
  | r :: rest, nodup, member, null => by
      rw [List.map_cons, List.nodup_cons] at nodup
      by_cases same : r.id = row.id
      · have isHead : row = r := by
          rcases List.mem_cons.mp member with head | inRest
          · exact head
          · exact absurd (same ▸ List.mem_map_of_mem Row.id inRest) nodup.1
        subst isHead
        have untouched : ∀ r ∈ rest, (if r.id = row.id then r.set column cell else r) = r :=
          fun r inRest => if_neg fun (same : r.id = row.id) =>
            nodup.1 (same ▸ List.mem_map_of_mem Row.id inRest)
        simp [List.map_congr_left untouched, filled, null]
      · have inRest : row ∈ rest :=
          (List.mem_cons.mp member).resolve_left fun head => same (by rw [head])
        have := countNull_map_update filled nodup.2 inRest null
        by_cases rNull : (r.cells column).isNull <;> simp_all

theorem countNull_update {row : Row} {column : String} {cell : Cell} (member : row ∈ table.rows)
    (null : (row.cells column).isNull) (filled : cell.isNull = false) :
    (table.update row.id column cell).countNull column + 1 = table.countNull column :=
  countNull_map_update filled table.ids_nodup member null

end Table

/-! ## `SELECT` and the backfill it serves -/

/-- The order each `SELECT` returns its rows in, and which `UPDATE`s fail. -/
structure Backend where
  resultOrder : Nat → List Row → List Row
  resultOrder_perm : ∀ query rows, (resultOrder query rows).Perm rows
  updateFails : Int → Bool

namespace Table

variable {table : Table}

section Select

variable (backend : Backend) (query : Nat) (target : String) (limit : Nat)

/-- `SELECT id, column FROM table WHERE target IS NULL LIMIT limit`, the `query`-th query. -/
def select (table : Table) : List Row :=
  (backend.resultOrder query (table.nullRows target)).take limit

variable {backend query target limit}

theorem mem_select {row : Row} (member : row ∈ table.select backend query target limit) :
    row ∈ table.rows ∧ (row.cells target).isNull := by
  have selected := (backend.resultOrder_perm query _).subset (List.mem_of_mem_take member)
  exact List.mem_filter.mp selected

theorem select_ids_nodup : ((table.select backend query target limit).map Row.id).Nodup := by
  have ordered := (backend.resultOrder_perm query (table.nullRows target)).map Row.id
  have nullIds : ((table.nullRows target).map Row.id).Nodup :=
    table.ids_nodup.sublist ((List.filter_sublist _).map Row.id)
  rw [select, List.map_take]
  exact (ordered.nodup_iff.mpr nullIds).sublist (List.take_sublist _ _)

theorem length_select :
    (table.select backend query target limit).length = min limit (table.countNull target) := by
  rw [select, List.length_take, (backend.resultOrder_perm query _).length_eq, countNull]

end Select

section Backfill

variable (engine : Engine) (ratio : Int) (column target : String)

/-- The table with the rows whose ids are in `done` backfilled. -/
def backfillOn (table : Table) (done : List Int) : Table :=
  table.mapRows (fun row => if row.id ∈ done then row.backfill engine ratio column target else row)
    (fun row => by dsimp only; split <;> simp)

variable {engine ratio column target}

theorem mem_of_mem_backfillOn {done : List Int} {row : Row}
    (member : row ∈ (table.backfillOn engine ratio column target done).rows)
    (null : (row.cells target).isNull) : row ∈ table.rows ∧ (row.id ∈ done → row.scan column = none) := by
  obtain ⟨original, originalMember, rfl⟩ := List.mem_map.mp member
  by_cases reached : original.id ∈ done
  · simp only [reached, if_true] at null ⊢
    cases scanned : original.scan column with
    | none => simpa [Row.backfill, scanned] using originalMember
    | some value =>
        by_cases originalNull : (original.cells target).isNull
        · simp [Row.backfill_of_scan engine ratio column target originalNull scanned,
            Cell.isNull] at null
        · simp [Row.backfill, scanned, originalNull] at null
  · simpa [reached] using originalMember

theorem backfillOn_update {done : List Int} {row : Row} {value : Int} (member : row ∈ table.rows)
    (null : (row.cells target).isNull) (scanned : row.scan column = some value) :
    (table.backfillOn engine ratio column target done).update row.id target
        (.decimal (engine.convertIDRtoIDN value ratio)) =
      table.backfillOn engine ratio column target (row.id :: done) := by
  have filled := Row.backfill_of_scan engine ratio column target null scanned
  ext1
  simp only [backfillOn, update, mapRows, List.map_map]
  refine List.map_congr_left fun other otherMember => ?_
  by_cases same : other.id = row.id
  · obtain rfl := eq_of_id_eq otherMember member same
    by_cases reached : other.id ∈ done <;> simp [reached, filled]
  · by_cases reached : other.id ∈ done <;> simp [reached, same]

theorem backfillOn_nil : table.backfillOn engine ratio column target [] = table := by
  ext1
  simp [backfillOn, mapRows]

theorem backfillOn_eq_of_countNull {done : List Int}
    (finished : (table.backfillOn engine ratio column target done).countNull target = 0) :
    (table.backfillOn engine ratio column target done).rows =
      table.rows.map (Row.backfill engine ratio column target) := by
  refine List.map_congr_left fun row member => ?_
  by_cases reached : row.id ∈ done
  · simp [reached]
  · simp only [reached, if_false]
    by_cases null : (row.cells target).isNull
    · have stillNull : row ∈ (table.backfillOn engine ratio column target done).nullRows target :=
        List.mem_filter.mpr ⟨List.mem_map.mpr ⟨row, member, if_neg reached⟩, null⟩
      rw [countNull, List.length_eq_zero] at finished
      exact absurd stillNull (finished ▸ List.not_mem_nil _)
    · simp [Row.backfill, null]
      split <;> simp [null]

end Backfill

end Table

end TransisiDB.Backfill
