import TransisiDB.Config

set_option autoImplicit false

/-!
# `Config.Validate`

`Validate` of `internal/config/config.go` checks the backend address, the proxy port and the
conversion settings, in that order, and returns the error of the first check that fails.
The `Database` and `Proxy` sections it reads are read by no other modelled function, so they
are `DatabaseConfig` and `ProxyConfig`, the first two arguments of `Config.validate`.

`Config.ValidBySpec` is the validity the specification describes: the same checks, the three
rounding modes the engine implements, and the table rules (distinct shadow columns within a
table, per-column precision in `[0, 10]`).
-/

namespace TransisiDB

/-- The fields of `config.DatabaseConfig` that `Validate` reads. -/
structure DatabaseConfig where
  host : String
  port : Int

/-- The field of `config.ProxyConfig` that `Validate` reads. -/
structure ProxyConfig where
  port : Int

/-- The keys of the `validStrategies` map of `Validate`. -/
def validStrategies : List String := ["BANKERS_ROUND", "ARITHMETIC_ROUND"]

/-- The table rules of the specification: distinct shadow columns, precisions in `[0, 10]`. -/
def TableConfig.WellFormed (table : TableConfig) : Prop :=
  (table.columns.entries.map fun entry => entry.2.targetColumn).Nodup ∧
    ∀ entry ∈ table.columns.entries, 0 ≤ entry.2.precision ∧ entry.2.precision ≤ 10

instance (table : TableConfig) : Decidable table.WellFormed :=
  inferInstanceAs (Decidable (_ ∧ _))

namespace Config

/-- `Config.Validate`: the error of the first failed check, `none` for `nil`. -/
def validate (database : DatabaseConfig) (proxy : ProxyConfig) (c : Config) : Option String :=
  if database.host = "" then some "database host is required"
  else if database.port = 0 then some "database port is required"
  else if proxy.port = 0 then some "proxy port is required"
  else if c.conversion.ratio ≤ 0 then some "conversion ratio must be positive"
  else if c.conversion.precision < 0 ∨ c.conversion.precision > 10 then
    some "conversion precision must be between 0 and 10"
  else if c.conversion.roundingStrategy ∉ validStrategies then
    some ("invalid rounding strategy: " ++ c.conversion.roundingStrategy)
  else none

theorem validate_eq_none_iff (database : DatabaseConfig) (proxy : ProxyConfig) (c : Config) :
    c.validate database proxy = none ↔
      database.host ≠ "" ∧ database.port ≠ 0 ∧ proxy.port ≠ 0 ∧ 0 < c.conversion.ratio ∧
        0 ≤ c.conversion.precision ∧ c.conversion.precision ≤ 10 ∧
        c.conversion.roundingStrategy ∈ validStrategies := by
  unfold validate
  split_ifs <;> simp_all
  omega

/-- The configurations the specification has `Validate` accept. -/
def ValidBySpec (database : DatabaseConfig) (proxy : ProxyConfig) (c : Config) : Prop :=
  database.host ≠ "" ∧ database.port ≠ 0 ∧ proxy.port ≠ 0 ∧ 0 < c.conversion.ratio ∧
    0 ≤ c.conversion.precision ∧ c.conversion.precision ≤ 10 ∧
    c.conversion.roundingStrategy ∈ ["BANKERS_ROUND", "ARITHMETIC_ROUND", "NO_ROUND"] ∧
    ∀ entry ∈ c.tables.entries, entry.2.WellFormed

instance (database : DatabaseConfig) (proxy : ProxyConfig) (c : Config) :
    Decidable (c.ValidBySpec database proxy) :=
  inferInstanceAs (Decidable (_ ∧ _ ∧ _ ∧ _ ∧ _ ∧ _ ∧ _ ∧ _))

/-- `Validate` rejects `NO_ROUND` and accepts two columns sharing one shadow column. -/
theorem validate_rejects_noRound_and_accepts_shared_target :
    let database : DatabaseConfig := ⟨"localhost", 3306⟩
    let proxy : ProxyConfig := ⟨3307⟩
    let noRound : Config := ⟨⟨1000, 4, "NO_ROUND"⟩, ⟨1000, 3⟩, GoMap.empty⟩
    let sharedTarget : Config := ⟨⟨1000, 4, "BANKERS_ROUND"⟩, ⟨1000, 3⟩,
      ⟨[("orders", ⟨true, ⟨[("total_amount", ⟨"total_amount_idn", "BANKERS_ROUND", 4⟩),
        ("shipping_fee", ⟨"total_amount_idn", "BANKERS_ROUND", 4⟩)], by decide⟩⟩)], by decide⟩⟩
    (noRound.validate database proxy = some "invalid rounding strategy: NO_ROUND" ∧
        noRound.ValidBySpec database proxy) ∧
      (sharedTarget.validate database proxy = none ∧ ¬sharedTarget.ValidBySpec database proxy) := by
  decide

end Config

end TransisiDB
