set_option autoImplicit false

/-!
# Backfill progress

`internal/backfill/progress.go`, without the timestamps and the snapshot text.  The
counters are the `int64`s `SetTotal`, `IncrementCompleted` and `IncrementErrors` update.
-/

namespace TransisiDB.Backfill

inductive Status where
  | pending
  | running
  | paused
  | completed
  | failed
  deriving DecidableEq, Repr

structure Progress where
  tableName : String
  totalRows : Int
  completedRows : Int
  errors : Int
  status : Status
  deriving DecidableEq, Repr

namespace Progress

def new : Progress :=
  ⟨"", 0, 0, 0, .pending⟩

variable (p : Progress)

def start (tableName : String) : Progress :=
  { p with tableName, status := .running }

def setTotal (total : Int) : Progress :=
  { p with totalRows := total }

def incrementCompleted (count : Int) : Progress :=
  { p with completedRows := p.completedRows + count }

@[simp]
theorem incrementCompleted_incrementCompleted (count more : Int) :
    (p.incrementCompleted count).incrementCompleted more = p.incrementCompleted (count + more) := by
  simp only [incrementCompleted, Int.add_assoc]

@[simp]
theorem incrementCompleted_zero : p.incrementCompleted 0 = p := by
  simp only [incrementCompleted, Int.add_zero]

def incrementErrors : Progress :=
  { p with errors := p.errors + 1 }

def complete : Progress :=
  { p with status := .completed }

@[simp]
theorem incrementCompleted_status (count : Int) : (p.incrementCompleted count).status = p.status :=
  rfl

@[simp]
theorem incrementCompleted_completedRows (count : Int) :
    (p.incrementCompleted count).completedRows = p.completedRows + count := rfl

@[simp]
theorem incrementErrors_status : p.incrementErrors.status = p.status := rfl

@[simp]
theorem incrementErrors_completedRows : p.incrementErrors.completedRows = p.completedRows := rfl

@[simp]
theorem complete_status : p.complete.status = .completed := rfl

@[simp]
theorem complete_completedRows : p.complete.completedRows = p.completedRows := rfl

def fail : Progress :=
  { p with status := .failed }

def pause : Progress :=
  { p with status := .paused }

def resume : Progress :=
  { p with status := .running }

end Progress

end TransisiDB.Backfill
