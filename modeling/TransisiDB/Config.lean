import Mathlib.Data.List.Nodup

set_option autoImplicit false

/-!
The parts of `config.Config` that the proxy, the rewriter and the backfill worker read.

Go maps keyed by strings are `GoMap`s: a list of entries whose keys are pairwise distinct.
The list order is one order in which `range` may visit the map; code whose behaviour
depends on that order (the backfill worker's "first column") takes the order as an
argument instead of reading it from the list.
-/

namespace TransisiDB

/-- A Go `map[string]V`. Keys are distinct, as in any Go map. -/
structure GoMap (V : Type) where
  entries : List (String × V)
  keys_nodup : (entries.map Prod.fst).Nodup

namespace GoMap

variable {V : Type}

/-- The empty map. -/
def empty : GoMap V := ⟨[], List.nodup_nil⟩

/-- Map lookup `m[key]` with the comma-ok result. -/
def get? (m : GoMap V) (key : String) : Option V :=
  m.entries.lookup key

/-- The keys, in the entries' order. -/
def keys (m : GoMap V) : List String :=
  m.entries.map Prod.fst

/-- The entry a `range` over a map sees first, when the runtime starts it at `start`. -/
def rangeFirst (m : GoMap V) (start : Nat) : Option (String × V) :=
  m.entries[start % m.entries.length]?

theorem rangeFirst_singleton {entry : String × V} {m : GoMap V} (single : m.entries = [entry])
    (start : Nat) : m.rangeFirst start = some entry := by
  simp [rangeFirst, single, Nat.mod_one]

theorem get?_isSome_iff (m : GoMap V) (key : String) :
    (m.get? key).isSome ↔ key ∈ m.keys := by
  simp [get?, keys, @eq_comm _ key]

end GoMap

/-- `config.ColumnConfig`: the shadow column and the per-column rounding settings. -/
structure ColumnConfig where
  targetColumn : String
  roundingStrategy : String
  precision : Int

/-- `config.TableConfig`: `columns` is keyed by the source column's name. -/
structure TableConfig where
  enabled : Bool
  columns : GoMap ColumnConfig

/-- `config.TablesConfig`, keyed by table name. -/
abbrev TablesConfig := GoMap TableConfig

structure ConversionConfig where
  ratio : Int
  precision : Int
  roundingStrategy : String

/-- `config.BackfillConfig`: the fields `Worker.Start` reads. -/
structure BackfillConfig where
  batchSize : Int
  retryAttempts : Int

/-- `config.Config`, restricted to what the modelled components read. -/
structure Config where
  conversion : ConversionConfig
  backfill : BackfillConfig
  tables : TablesConfig

end TransisiDB
