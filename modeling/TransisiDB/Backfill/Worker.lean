import TransisiDB.Backfill.Progress
import TransisiDB.Backfill.Table

set_option autoImplicit false

/-!
# The backfill worker

`Worker.Start`, `Worker.processBatch`, `Worker.countPendingRows` and `Worker.shouldRetry` of
`internal/backfill/worker.go`.

Each `range` over `tableConfig.Columns` that breaks at once sees the entry at which Go's
randomised map iteration starts: the `k`-th such loop of a run starts at `columnOrder k`
(loop 0 is `countPendingRows`, loop `i + 1` the one of the `i`-th `processBatch`; the other
loop of `processBatch` builds a list nothing reads).  The batch loop takes the `default`
case of its `select` each time (no cancellation, `Stop` or `Pause`), and its sleeps change
nothing.  `start` runs at most `fuel` batches; `none` means that it ran out.
-/

namespace TransisiDB.Backfill

/-- `Worker`: its configuration, its progress and the `running` flag. -/
structure Worker where
  config : BackfillConfig
  conversionCfg : ConversionConfig
  progress : Progress
  running : Bool

namespace Worker

def new (cfg : Config) : Worker :=
  ⟨cfg.backfill, cfg.conversion, Progress.new, false⟩

variable (w : Worker)

/-- The engine `NewWorker` builds from the conversion settings. -/
def roundingEngine : Engine :=
  ⟨w.conversionCfg.roundingStrategy, w.conversionCfg.precision⟩

def shouldRetry : Bool :=
  w.progress.errors < w.config.retryAttempts

variable (backend : Backend) (columnOrder : Nat → Nat) (tableConfig : TableConfig)

/-- The row loop of `processBatch`, stopping at the first row it cannot scan or update. -/
def processRows (column target : String) : Table → List Row → Table × Nat × Option String
  | table, [] => (table, 0, none)
  | table, row :: rest =>
      match row.scan column with
      | none => (table, 0, some "failed to scan row")
      | some value =>
          if backend.updateFails row.id then
            (table, 0, some ("failed to update row " ++ toString row.id))
          else
            let (table, processed, err) := processRows column target
              (table.update row.id target
                (.decimal (w.roundingEngine.convertIDRtoIDN value w.conversionCfg.ratio)))
              rest
            (table, processed + 1, err)

/-- `processBatch`, the `batch`-th of the run, on the column the map iteration starts at. -/
def processBatch (batch : Nat) (table : Table) : Table × Nat × Option String :=
  match tableConfig.columns.rangeFirst (columnOrder (batch + 1)) with
  | some (firstColumn, firstConfig) =>
      if firstColumn = "" then (table, 0, some "no currency columns configured")
      else if w.config.batchSize < 0 then (table, 0, some "failed to query batch")
      else
        w.processRows backend firstColumn firstConfig.targetColumn table
          (table.select backend batch firstConfig.targetColumn w.config.batchSize.toNat)
  | none => (table, 0, some "no currency columns configured")

/-- `countPendingRows`: the `NULL` targets of the column the map iteration starts at. -/
def countPendingRows (table : Table) : Option Nat :=
  let target := ((tableConfig.columns.rangeFirst (columnOrder 0)).map
    fun entry => entry.2.targetColumn).getD ""
  if target = "" then none else some (table.countNull target)

/-- The batch loop of `Start` from its `batch`-th batch, for at most `fuel` batches. -/
def batchLoop : Nat → Nat → Worker → Table → Option (Worker × Table × Option String)
  | 0, _, _, _ => none
  | fuel + 1, batch, w, table =>
      match w.processBatch backend columnOrder tableConfig batch table with
      | (table, _, some err) =>
          let w := { w with progress := w.progress.incrementErrors }
          if w.shouldRetry then batchLoop fuel (batch + 1) w table
          else some (w, table, some ("batch processing failed: " ++ err))
      | (table, processed, none) =>
          if processed = 0 then some ({ w with progress := w.progress.complete }, table, none)
          else
            batchLoop fuel (batch + 1)
              { w with progress := w.progress.incrementCompleted processed } table

/-- `Start`: the worker afterwards, the table, and the error it returns. -/
def start (fuel : Nat) (table : Table) (tableName : String) :
    Option (Worker × Table × Option String) :=
  if w.running then some (w, table, some "worker already running")
  else
    let w := { w with running := true, progress := w.progress.start tableName }
    let stop := fun w : Worker => { w with running := false }
    match countPendingRows columnOrder tableConfig table with
    | none => some (stop w, table, some "failed to count rows")
    | some totalRows =>
        let w := { w with progress := w.progress.setTotal totalRows }
        if totalRows = 0 then some (stop { w with progress := w.progress.complete }, table, none)
        else
          (batchLoop backend columnOrder tableConfig fuel 0 w table).map
            fun (w, table, err) => (stop w, table, err)

/-! ## The row loop -/

section RowLoop

variable {w backend} {column target : String}

theorem processRows_cons_of_scan_none {table : Table} {row : Row} {rest : List Row}
    (unscanned : row.scan column = none) :
    w.processRows backend column target table (row :: rest) =
      (table, 0, some "failed to scan row") := by
  simp [processRows, unscanned]

theorem processRows_cons_of_fails {table : Table} {row : Row} {rest : List Row} {value : Int}
    (scanned : row.scan column = some value) (fails : backend.updateFails row.id = true) :
    w.processRows backend column target table (row :: rest) =
      (table, 0, some ("failed to update row " ++ toString row.id)) := by
  simp [processRows, scanned, fails]

theorem processRows_cons_of_updated {table : Table} {row : Row} {rest : List Row} {value : Int}
    (scanned : row.scan column = some value) (updated : backend.updateFails row.id = false) :
    w.processRows backend column target table (row :: rest) =
      let result := w.processRows backend column target
        (table.update row.id target
          (.decimal (w.roundingEngine.convertIDRtoIDN value w.conversionCfg.ratio))) rest
      (result.1, result.2.1 + 1, result.2.2) := by
  simp only [processRows, scanned, updated]
  rfl

theorem processRows_countNull {table : Table} {batch : List Row}
    (selected : ∀ row ∈ batch, row ∈ table.rows ∧ (row.cells target).isNull)
    (distinct : (batch.map Row.id).Nodup) :
    (w.processRows backend column target table batch).1.countNull target +
        (w.processRows backend column target table batch).2.1 = table.countNull target := by
  induction batch generalizing table with
  | nil => rfl
  | cons row rest inductionHypothesis =>
      rw [List.map_cons, List.nodup_cons] at distinct
      obtain ⟨member, null⟩ := selected row (List.mem_cons_self _ _)
      cases scanned : row.scan column with
      | none => simp [processRows_cons_of_scan_none scanned]
      | some value =>
          cases updated : backend.updateFails row.id with
          | true => simp [processRows_cons_of_fails scanned updated]
          | false =>
              have stillSelected : ∀ other ∈ rest,
                  other ∈ (table.update row.id target
                    (.decimal (w.roundingEngine.convertIDRtoIDN value w.conversionCfg.ratio))).rows ∧
                  (other.cells target).isNull := fun other otherMember =>
                ⟨Table.mem_update_of_ne (selected other (List.mem_cons_of_mem _ otherMember)).1
                  fun same => distinct.1 (same ▸ List.mem_map_of_mem Row.id otherMember),
                  (selected other (List.mem_cons_of_mem _ otherMember)).2⟩
              have filled := @Table.countNull_update _ row target
                (.decimal (w.roundingEngine.convertIDRtoIDN value w.conversionCfg.ratio)) member null rfl
              have later := inductionHypothesis stillSelected distinct.2
              rw [processRows_cons_of_updated scanned updated]
              dsimp only
              omega

theorem processRows_length {table : Table} {batch : List Row}
    (succeeded : (w.processRows backend column target table batch).2.2 = none) :
    (w.processRows backend column target table batch).2.1 = batch.length := by
  induction batch generalizing table with
  | nil => rfl
  | cons row rest inductionHypothesis =>
      cases scanned : row.scan column with
      | none => simp [processRows_cons_of_scan_none scanned] at succeeded
      | some value =>
          cases updated : backend.updateFails row.id with
          | true => simp [processRows_cons_of_fails scanned updated] at succeeded
          | false =>
              rw [processRows_cons_of_updated scanned updated] at succeeded ⊢
              simp [inductionHypothesis succeeded]

theorem processRows_keeps {table : Table} {batch : List Row} {bad : Row}
    (badMember : bad ∈ table.rows)
    (unprocessable : bad.scan column = none ∨ backend.updateFails bad.id = true)
    (selected : ∀ row ∈ batch, row ∈ table.rows) (distinct : (batch.map Row.id).Nodup) :
    bad ∈ (w.processRows backend column target table batch).1.rows := by
  induction batch generalizing table with
  | nil => exact badMember
  | cons row rest inductionHypothesis =>
      rw [List.map_cons, List.nodup_cons] at distinct
      cases scanned : row.scan column with
      | none => simpa [processRows_cons_of_scan_none scanned] using badMember
      | some value =>
          cases updated : backend.updateFails row.id with
          | true => simpa [processRows_cons_of_fails scanned updated] using badMember
          | false =>
              have other : bad.id ≠ row.id := fun same => by
                obtain rfl := Table.eq_of_id_eq badMember (selected row (List.mem_cons_self _ _)) same
                rcases unprocessable with unscanned | fails
                · rw [scanned] at unscanned; cases unscanned
                · rw [updated] at fails; cases fails
              rw [processRows_cons_of_updated scanned updated]
              exact inductionHypothesis (Table.mem_update_of_ne badMember other)
                (fun later laterMember => Table.mem_update_of_ne
                  (selected later (List.mem_cons_of_mem _ laterMember))
                  fun same => distinct.1 (same ▸ List.mem_map_of_mem Row.id laterMember))
                distinct.2

theorem processRows_backfills {table : Table} {done : List Int} {batch : List Row}
    (selected : ∀ row ∈ batch, row ∈ table.rows ∧ (row.cells target).isNull ∧ row.id ∉ done)
    (succeeding : ∀ row ∈ batch, (row.scan column).isSome ∧ backend.updateFails row.id = false)
    (distinct : (batch.map Row.id).Nodup) :
    w.processRows backend column target
        (table.backfillOn w.roundingEngine w.conversionCfg.ratio column target done) batch =
      (table.backfillOn w.roundingEngine w.conversionCfg.ratio column target
        ((batch.map Row.id).reverse ++ done), batch.length, none) := by
  induction batch generalizing done with
  | nil => rfl
  | cons row rest inductionHypothesis =>
      rw [List.map_cons, List.nodup_cons] at distinct
      obtain ⟨member, null, -⟩ := selected row (List.mem_cons_self _ _)
      obtain ⟨scannable, updated⟩ := succeeding row (List.mem_cons_self _ _)
      obtain ⟨value, scanned⟩ := Option.isSome_iff_exists.mp scannable
      have later := @inductionHypothesis (row.id :: done)
        (fun other otherMember => by
          obtain ⟨otherRow, otherNull, fresh⟩ := selected other (List.mem_cons_of_mem _ otherMember)
          refine ⟨otherRow, otherNull, ?_⟩
          intro reached
          rcases List.mem_cons.mp reached with same | reached
          · exact distinct.1 (same ▸ List.mem_map_of_mem Row.id otherMember)
          · exact fresh reached)
        (fun other otherMember => succeeding other (List.mem_cons_of_mem _ otherMember)) distinct.2
      rw [processRows_cons_of_updated scanned updated, Table.backfillOn_update member null scanned,
        later]
      simp

end RowLoop

/-! ## Runs of the batch loop

When every `range` over the columns starts at the same column (always so for a table with
one currency column), every batch works on that column. -/

section BatchLoop

variable {w backend columnOrder tableConfig} {column : String} {colConfig : ColumnConfig}
  (samePick : ∀ k, tableConfig.columns.rangeFirst (columnOrder k) = some (column, colConfig))
  (named : column ≠ "")

include samePick named in
theorem processBatch_eq (positive : 0 < w.config.batchSize) (batch : Nat) (table : Table) :
    w.processBatch backend columnOrder tableConfig batch table =
      w.processRows backend column colConfig.targetColumn table
        (table.select backend batch colConfig.targetColumn w.config.batchSize.toNat) := by
  simp [processBatch, samePick, named, not_lt.mpr positive.le]

include samePick named in
theorem batchLoop_backfills (positive : 0 < w.config.batchSize) {table : Table}
    (succeeding : ∀ row ∈ table.rows, (row.cells colConfig.targetColumn).isNull →
      (row.scan column).isSome ∧ backend.updateFails row.id = false)
    (fuel batch : Nat) (progress : Progress) (done : List Int)
    (enough : (table.backfillOn w.roundingEngine w.conversionCfg.ratio column
      colConfig.targetColumn done).countNull colConfig.targetColumn < fuel) :
    ∃ finished, batchLoop backend columnOrder tableConfig fuel batch { w with progress }
        (table.backfillOn w.roundingEngine w.conversionCfg.ratio column colConfig.targetColumn
          done) =
      some ({ w with progress := (progress.incrementCompleted ((table.backfillOn w.roundingEngine
          w.conversionCfg.ratio column colConfig.targetColumn done).countNull
            colConfig.targetColumn)).complete },
        table.backfillOn w.roundingEngine w.conversionCfg.ratio column colConfig.targetColumn
          finished, none) ∧
      (table.backfillOn w.roundingEngine w.conversionCfg.ratio column colConfig.targetColumn
        finished).countNull colConfig.targetColumn = 0 := by
  induction fuel generalizing batch progress done with
  | zero => exact absurd enough (Nat.not_lt_zero _)
  | succ fuel inductionHypothesis =>
      set current := table.backfillOn w.roundingEngine w.conversionCfg.ratio column
        colConfig.targetColumn done
      set selected := current.select backend batch colConfig.targetColumn w.config.batchSize.toNat
      have fresh : ∀ row ∈ selected, row ∈ table.rows ∧ (row.cells colConfig.targetColumn).isNull ∧
          row.id ∉ done := fun row member => by
        obtain ⟨currentMember, null⟩ := Table.mem_select member
        obtain ⟨original, unreached⟩ := Table.mem_of_mem_backfillOn currentMember null
        refine ⟨original, null, fun reached => ?_⟩
        have scannable := (succeeding row original null).1
        rw [unreached reached] at scannable
        cases scannable
      have processed : ({ w with progress } : Worker).processRows backend column
          colConfig.targetColumn current selected =
          (table.backfillOn w.roundingEngine w.conversionCfg.ratio column colConfig.targetColumn
            ((selected.map Row.id).reverse ++ done), selected.length, none) :=
        processRows_backfills fresh
          (fun row member => succeeding row (fresh row member).1 (fresh row member).2.1)
          Table.select_ids_nodup
      have counted : (({ w with progress } : Worker).processRows backend column
          colConfig.targetColumn current selected).1.countNull colConfig.targetColumn +
          (({ w with progress } : Worker).processRows backend column
            colConfig.targetColumn current selected).2.1 =
          current.countNull colConfig.targetColumn :=
        processRows_countNull (fun row member => Table.mem_select member) Table.select_ids_nodup
      rw [processed] at counted
      dsimp only at counted
      simp only [batchLoop,
        @processBatch_eq { w with progress } backend columnOrder tableConfig column colConfig
          samePick named positive]
      rw [processed]
      by_cases empty : selected.length = 0
      · have none : current.countNull colConfig.targetColumn = 0 := by
          rw [Table.length_select] at empty; omega
        refine ⟨(selected.map Row.id).reverse ++ done, ?_, by omega⟩
        simp [empty, none]
      · obtain ⟨finished, run, complete⟩ := inductionHypothesis (batch + 1)
          (progress.incrementCompleted selected.length) ((selected.map Row.id).reverse ++ done)
          (by omega)
        refine ⟨finished, ?_, complete⟩
        simp only [empty, if_false]
        rw [run]
        congr 4
        simp only [Progress.incrementCompleted_incrementCompleted]
        congr 1
        omega

include samePick named in
theorem batchLoop_fails (positive : 0 < w.config.batchSize) {bad : Row}
    (pending : (bad.cells colConfig.targetColumn).isNull)
    (unprocessable : bad.scan column = none ∨ backend.updateFails bad.id = true)
    (fuel batch : Nat) (progress : Progress) (table : Table) (badMember : bad ∈ table.rows)
    (enough : table.countNull colConfig.targetColumn +
      (w.config.retryAttempts - progress.errors).toNat < fuel) :
    ∃ completed final message,
      batchLoop backend columnOrder tableConfig fuel batch { w with progress } table =
        some ({ w with progress := { progress with
            errors := max (progress.errors + 1) w.config.retryAttempts
            completedRows := completed } }, final, some message) ∧
      bad ∈ final.rows := by
  induction fuel generalizing batch progress table with
  | zero => exact absurd enough (Nat.not_lt_zero _)
  | succ fuel inductionHypothesis =>
      set selected := table.select backend batch colConfig.targetColumn w.config.batchSize.toNat
      have nonempty : 0 < selected.length := by
        have pendingCount : 0 < table.countNull colConfig.targetColumn :=
          List.length_pos_of_mem (List.mem_filter.mpr ⟨badMember, pending⟩)
        rw [Table.length_select]
        omega
      simp only [batchLoop,
        @processBatch_eq { w with progress } backend columnOrder tableConfig column colConfig
          samePick named positive]
      generalize processedEq : ({ w with progress } : Worker).processRows backend column
        colConfig.targetColumn table selected = result
      have counted : result.1.countNull colConfig.targetColumn + result.2.1 =
          table.countNull colConfig.targetColumn := processedEq ▸
        processRows_countNull (fun row member => Table.mem_select member) Table.select_ids_nodup
      have kept : bad ∈ result.1.rows := processedEq ▸
        processRows_keeps badMember unprocessable (fun row member => (Table.mem_select member).1)
          Table.select_ids_nodup
      have length : result.2.2 = none → result.2.1 = selected.length :=
        processedEq ▸ processRows_length
      obtain ⟨final, processed, outcome⟩ := result
      cases outcome with
      | some message =>
          dsimp only at counted kept ⊢
          by_cases retry : progress.errors + 1 < w.config.retryAttempts
          · have again : ({ w with progress := progress.incrementErrors } : Worker).shouldRetry :=
              by simp [shouldRetry, Progress.incrementErrors, retry]
            obtain ⟨completed, last, lastMessage, run, lastKept⟩ := inductionHypothesis (batch + 1)
              progress.incrementErrors final kept (by simp only [Progress.incrementErrors]; omega)
            refine ⟨completed, last, lastMessage, ?_, lastKept⟩
            have sameMax : max (progress.errors + 1 + 1) w.config.retryAttempts =
                max (progress.errors + 1) w.config.retryAttempts := by omega
            rw [if_pos again, run]
            simp only [Progress.incrementErrors, sameMax]
          · have stop : ({ w with progress := progress.incrementErrors } : Worker).shouldRetry =
                false := by simpa [shouldRetry, Progress.incrementErrors] using retry
            refine ⟨progress.completedRows, final, "batch processing failed: " ++ message, ?_, kept⟩
            have lastMax : max (progress.errors + 1) w.config.retryAttempts = progress.errors + 1 :=
              by omega
            rw [stop, if_neg Bool.false_ne_true]
            simp only [Progress.incrementErrors, lastMax]
      | none =>
          dsimp only at counted kept length ⊢
          have processedAll := length rfl
          obtain ⟨completed, last, lastMessage, run, lastKept⟩ := inductionHypothesis (batch + 1)
            (progress.incrementCompleted processed) final kept
            (by simp only [Progress.incrementCompleted]; omega)
          refine ⟨completed, last, lastMessage, ?_, lastKept⟩
          rw [if_neg (by omega), run]
          rfl

end BatchLoop

/-! ## `Start` on a new worker -/

section Start

variable {backend columnOrder tableConfig} {column : String} {colConfig : ColumnConfig}

theorem new_start_eq (cfg : Config) (fuel : Nat) (table : Table) (tableName : String)
    (first : tableConfig.columns.rangeFirst (columnOrder 0) = some (column, colConfig))
    (targeted : colConfig.targetColumn ≠ "") :
    (Worker.new cfg).start backend columnOrder tableConfig fuel table tableName =
      let w : Worker := ⟨cfg.backfill, cfg.conversion,
        (Progress.new.start tableName).setTotal (table.countNull colConfig.targetColumn), true⟩
      if table.countNull colConfig.targetColumn = 0 then
        some ({ w with running := false, progress := w.progress.complete }, table, none)
      else
        (batchLoop backend columnOrder tableConfig fuel 0 w table).map
          fun (w, table, err) => ({ w with running := false }, table, err) := by
  simp [start, Worker.new, countPendingRows, first, targeted]

def amountColumn : ColumnConfig :=
  ⟨"total_amount_idn", "BANKERS_ROUND", 4⟩

def amountTableConfig : TableConfig :=
  ⟨true, ⟨[("total_amount", amountColumn)], by decide⟩⟩

def ordersRow (id : Int) (amount : Cell) : Row :=
  ⟨id, fun col => if col = "total_amount" then amount else .null⟩

def tableOrder : Backend :=
  ⟨fun _ rows => rows, fun _ rows => List.Perm.refl rows, fun _ => false⟩

/-- With every pending row processable, `Start` completes and backfills the table. -/
theorem start_completes_backfill (cfg : Config) (backend : Backend) (columnOrder : Nat → Nat)
    (tableConfig : TableConfig) {column : String} {colConfig : ColumnConfig}
    (samePick : ∀ k, tableConfig.columns.rangeFirst (columnOrder k) = some (column, colConfig))
    (named : column ≠ "") (targeted : colConfig.targetColumn ≠ "")
    (positive : 0 < cfg.backfill.batchSize) (table : Table) (tableName : String)
    (succeeding : ∀ row ∈ table.rows, (row.cells colConfig.targetColumn).isNull →
      (row.scan column).isSome ∧ backend.updateFails row.id = false)
    (fuel : Nat) (enough : table.countNull colConfig.targetColumn < fuel) :
    ∃ w final, (Worker.new cfg).start backend columnOrder tableConfig fuel table tableName =
        some (w, final, none) ∧
      w.progress.status = .completed ∧
      w.progress.totalRows = table.countNull colConfig.targetColumn ∧
      w.progress.completedRows = w.progress.totalRows ∧
      final.countNull colConfig.targetColumn = 0 ∧
      final.rows = table.rows.map (Row.backfill (Worker.new cfg).roundingEngine
        cfg.conversion.ratio column colConfig.targetColumn) := by
  rw [new_start_eq cfg fuel table tableName (samePick 0) targeted]
  by_cases nothingPending : table.countNull colConfig.targetColumn = 0
  · have rows := @Table.backfillOn_eq_of_countNull table (Worker.new cfg).roundingEngine
      cfg.conversion.ratio column colConfig.targetColumn []
      (by rw [Table.backfillOn_nil]; exact nothingPending)
    rw [Table.backfillOn_nil] at rows
    simp only [nothingPending, if_true]
    exact ⟨_, table, rfl, rfl, rfl, by simp [Progress.new, Progress.setTotal, Progress.start,
      Progress.complete], nothingPending, rows⟩
  · obtain ⟨finished, run, complete⟩ := @batchLoop_backfills
      ⟨cfg.backfill, cfg.conversion, Progress.new, true⟩ backend columnOrder tableConfig column
      colConfig samePick named positive table succeeding fuel 0
      ((Progress.new.start tableName).setTotal (table.countNull colConfig.targetColumn)) []
      (by rw [Table.backfillOn_nil]; exact enough)
    rw [Table.backfillOn_nil] at run
    dsimp only at run
    simp only [nothingPending, if_false, run, Option.map_some']
    refine ⟨_, _, rfl, rfl, rfl, ?_, complete, Table.backfillOn_eq_of_countNull complete⟩
    simp [Progress.new, Progress.start, Progress.setTotal, Progress.incrementCompleted,
      Progress.complete]

theorem start_completes_backfill_orders :
    let cfg : Config := ⟨⟨1000, 4, "BANKERS_ROUND"⟩, ⟨2, 3⟩, GoMap.empty⟩
    let table : Table :=
      ⟨[ordersRow 1 (.integer 500000), ordersRow 2 (.integer 750000)], by decide⟩
    (∀ k, amountTableConfig.columns.rangeFirst (id k) =
        some ("total_amount", amountColumn)) ∧
      "total_amount" ≠ "" ∧ amountColumn.targetColumn ≠ "" ∧ 0 < cfg.backfill.batchSize ∧
      (∀ row ∈ table.rows, (row.cells amountColumn.targetColumn).isNull →
        (row.scan "total_amount").isSome ∧ tableOrder.updateFails row.id = false) ∧
      table.countNull amountColumn.targetColumn < 3 ∧
      ∃ w final, (Worker.new cfg).start tableOrder id amountTableConfig 3 table "orders" =
          some (w, final, none) ∧
        w.progress.status = .completed ∧
        w.progress.totalRows = table.countNull amountColumn.targetColumn ∧
        w.progress.completedRows = w.progress.totalRows ∧
        final.countNull amountColumn.targetColumn = 0 ∧
        final.rows = table.rows.map (Row.backfill (Worker.new cfg).roundingEngine
          cfg.conversion.ratio "total_amount" amountColumn.targetColumn) := by
  intro cfg table
  have samePick : ∀ k, amountTableConfig.columns.rangeFirst (id k) =
      some ("total_amount", amountColumn) := fun k => GoMap.rangeFirst_singleton rfl (id k)
  have succeeding : ∀ row ∈ table.rows, (row.cells amountColumn.targetColumn).isNull →
      (row.scan "total_amount").isSome ∧ tableOrder.updateFails row.id = false := by decide
  exact ⟨samePick, by decide, by decide, by decide, succeeding, by decide,
    start_completes_backfill cfg tableOrder id amountTableConfig samePick (by decide)
      (by decide) (by decide) table "orders" succeeding 3 (by decide)⟩

def twoColumnTableConfig : TableConfig :=
  ⟨true, ⟨[("total_amount", amountColumn),
    ("shipping_fee", ⟨"shipping_fee_idn", "BANKERS_ROUND", 4⟩)], by decide⟩⟩

def feeConvertedRow : Row :=
  ⟨1, fun col =>
    if col = "total_amount" then .integer 500000
    else if col = "shipping_fee" then .integer 10000
    else if col = "shipping_fee_idn" then .decimal 10 else .null⟩

/-- `Start` completes with a target still `NULL`: with `BatchSize` 0, and with two columns. -/
theorem start_completes_with_null_target :
    ((Worker.new ⟨⟨1000, 4, "BANKERS_ROUND"⟩, ⟨0, 3⟩, GoMap.empty⟩).start tableOrder id
        amountTableConfig 2 ⟨[ordersRow 1 (.integer 500000)], by decide⟩ "orders").map
      (fun result => (result.1.progress.status, result.1.progress.completedRows,
        result.1.progress.totalRows, result.2.1.countNull "total_amount_idn", result.2.2)) =
      some (.completed, 0, 1, 1, none) ∧
    ((Worker.new ⟨⟨1000, 4, "BANKERS_ROUND"⟩, ⟨1000, 3⟩, GoMap.empty⟩).start tableOrder id
        twoColumnTableConfig 2 ⟨[feeConvertedRow], by decide⟩ "orders").map
      (fun result => (result.1.progress.status, result.1.progress.completedRows,
        result.1.progress.totalRows, result.2.1.countNull "total_amount_idn", result.2.2)) =
      some (.completed, 0, 1, 1, none) :=
  ⟨by decide, by decide⟩

/-- A row that cannot be processed makes `Start` fail, the row `NULL` and the job `Running`. -/
theorem start_fails_on_unprocessable_row (cfg : Config) (backend : Backend)
    (columnOrder : Nat → Nat) (tableConfig : TableConfig) {column : String}
    {colConfig : ColumnConfig}
    (samePick : ∀ k, tableConfig.columns.rangeFirst (columnOrder k) = some (column, colConfig))
    (named : column ≠ "") (targeted : colConfig.targetColumn ≠ "")
    (positive : 0 < cfg.backfill.batchSize) (table : Table) (tableName : String) {bad : Row}
    (badMember : bad ∈ table.rows) (pending : (bad.cells colConfig.targetColumn).isNull)
    (unprocessable : bad.scan column = none ∨ backend.updateFails bad.id = true)
    (fuel : Nat)
    (enough : table.countNull colConfig.targetColumn + cfg.backfill.retryAttempts.toNat < fuel) :
    ∃ w final message, (Worker.new cfg).start backend columnOrder tableConfig fuel table tableName =
        some (w, final, some message) ∧
      w.progress.status = .running ∧
      w.progress.errors = max 1 cfg.backfill.retryAttempts ∧
      bad ∈ final.rows := by
  rw [new_start_eq cfg fuel table tableName (samePick 0) targeted]
  have somePending : table.countNull colConfig.targetColumn ≠ 0 :=
    Nat.pos_iff_ne_zero.mp (List.length_pos_of_mem (List.mem_filter.mpr ⟨badMember, pending⟩))
  obtain ⟨completed, final, message, run, kept⟩ := @batchLoop_fails
    ⟨cfg.backfill, cfg.conversion, Progress.new, true⟩ backend columnOrder tableConfig column
    colConfig samePick named positive bad pending unprocessable fuel 0
    ((Progress.new.start tableName).setTotal (table.countNull colConfig.targetColumn)) table
    badMember (by simpa [Progress.new, Progress.start, Progress.setTotal] using enough)
  dsimp only at run
  simp only [somePending, if_false, run, Option.map_some']
  exact ⟨_, final, message, rfl, rfl, by simp [Progress.new, Progress.start, Progress.setTotal],
    kept⟩

theorem start_fails_on_unprocessable_row_orders :
    let cfg : Config := ⟨⟨1000, 4, "BANKERS_ROUND"⟩, ⟨10, 3⟩, GoMap.empty⟩
    let table : Table := ⟨[ordersRow 1 .null, ordersRow 2 (.integer 750000)], by decide⟩
    (∀ k, amountTableConfig.columns.rangeFirst (id k) =
        some ("total_amount", amountColumn)) ∧
      "total_amount" ≠ "" ∧ amountColumn.targetColumn ≠ "" ∧ 0 < cfg.backfill.batchSize ∧
      ordersRow 1 .null ∈ table.rows ∧
      ((ordersRow 1 .null).cells amountColumn.targetColumn).isNull ∧
      ((ordersRow 1 .null).scan "total_amount" = none ∨
        tableOrder.updateFails (ordersRow 1 .null).id = true) ∧
      table.countNull amountColumn.targetColumn + cfg.backfill.retryAttempts.toNat < 6 ∧
      ∃ w final message,
        (Worker.new cfg).start tableOrder id amountTableConfig 6 table "orders" =
          some (w, final, some message) ∧
        w.progress.status = .running ∧
        w.progress.errors = max 1 cfg.backfill.retryAttempts ∧
        ordersRow 1 .null ∈ final.rows := by
  intro cfg table
  have samePick : ∀ k, amountTableConfig.columns.rangeFirst (id k) =
      some ("total_amount", amountColumn) := fun k => GoMap.rangeFirst_singleton rfl (id k)
  have member : ordersRow 1 .null ∈ table.rows := List.mem_cons_self _ _
  have unscanned : (ordersRow 1 .null).scan "total_amount" = none := rfl
  exact ⟨samePick, by decide, by decide, by decide, member, rfl, Or.inl unscanned, by decide,
    start_fails_on_unprocessable_row cfg tableOrder id amountTableConfig samePick
      (by decide) (by decide) (by decide) table "orders" member rfl (Or.inl unscanned) 6
      (by decide)⟩

theorem start_leaves_valid_row_behind :
    ((Worker.new ⟨⟨1000, 4, "BANKERS_ROUND"⟩, ⟨10, 3⟩, GoMap.empty⟩).start tableOrder
        id amountTableConfig 6
        ⟨[ordersRow 1 .null, ordersRow 2 (.integer 750000)], by decide⟩ "orders").map
      (fun result => (result.2.1.rows.map fun row => (row.cells "total_amount_idn").isNull,
        result.2.2)) =
      some ([true, true], some "batch processing failed: failed to scan row") := by
  decide

/-- A failed batch does not count the rows it has already updated. -/
theorem start_drops_rows_of_failed_batch :
    ((Worker.new ⟨⟨1000, 4, "BANKERS_ROUND"⟩, ⟨10, 3⟩, GoMap.empty⟩).start tableOrder
        id amountTableConfig 6
        ⟨[ordersRow 1 (.integer 500000), ordersRow 2 .null], by decide⟩ "orders").map
      (fun result => (result.1.progress.completedRows, result.1.progress.errors,
        result.2.1.rows.map fun row => (row.cells "total_amount_idn").isNull, result.2.2)) =
      some (0, 3, [false, true], some "batch processing failed: failed to scan row") := by
  decide

end Start

end Worker

end TransisiDB.Backfill
