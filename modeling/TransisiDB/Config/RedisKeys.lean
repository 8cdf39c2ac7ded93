import TransisiDB.Config.Validate

set_option autoImplicit false

/-!
# The configuration store in Redis

The key-value side of `RedisStore` (`internal/config`): `SaveConfig`, `LoadConfig`,
`GetConfigTimestamp`, `SaveTableConfig`, `LoadTableConfig` and `DeleteTableConfig`, over a
Redis database given as its keys and values.  A value is kept decoded: what `json.Marshal`
writes of a `Config` or a `TableConfig` is taken to read back by `json.Unmarshal` as the same
value.  How each Redis command ends is the environment's choice: done, or an error, after
which a write may or may not have taken effect (a reply lost on the network).

* `tableKey_injective`, `tableKey_ne_mainKey`, `tableKey_ne_timestampKey`: distinct table
  names have distinct keys, and no table key is a key of the main configuration.
* `saveTableConfig_get`, `deleteTableConfig_get`, `saveConfigDocument_get`,
  `saveConfigTimestamp_get`: what each write leaves under every key.
* `mem_listTables`: `ListTables` lists the non-empty names that have a table stored.
-/

namespace TransisiDB.RedisStore

/-- `config.Config` as `SaveConfig` writes it: the sections `Validate` reads, and the rest. -/
structure ConfigDocument where
  database : DatabaseConfig
  proxy : ProxyConfig
  config : Config

/-- `Config.Validate` of a whole document. -/
def ConfigDocument.validate (doc : ConfigDocument) : Option String :=
  doc.config.validate doc.database doc.proxy

/-- A value the store writes, decoded. -/
inductive Value where
  | config (doc : ConfigDocument)
  | timestamp (unix : Int)
  | table (tableConfig : TableConfig)

/-- A Redis database: its keys and their values. -/
abbrev Keyspace := List (String × Value)

namespace Keyspace

/-- `GET`; a missing key (`redis.Nil`) is `none`. -/
def get : Keyspace → String → Option Value
  | [], _ => none
  | (key, value) :: rest, wanted => if key = wanted then some value else get rest wanted

def del (redis : Keyspace) (key : String) : Keyspace :=
  redis.filter fun entry => entry.1 ≠ key

/-- `SET` with no expiry. -/
def set (redis : Keyspace) (key : String) (value : Value) : Keyspace :=
  (key, value) :: redis.del key

variable (redis : Keyspace) {key other : String}

theorem get_del (key wanted : String) :
    (redis.del key).get wanted = if key = wanted then none else redis.get wanted := by
  induction redis with
  | nil => simp [del, get]
  | cons entry rest inductionHypothesis =>
      obtain ⟨name, value⟩ := entry
      by_cases same : name = key
      · subst same
        by_cases found : name = wanted <;> simp_all [del, get]
      · by_cases found : name = wanted
        · subst found
          simp_all [del, get, Ne.symm same]
        · simp_all [del, get]

@[simp]
theorem get_set_self (value : Value) : (redis.set key value).get key = some value := by
  simp [set, get]

@[simp]
theorem get_set_of_ne (value : Value) (differs : key ≠ other) :
    (redis.set key value).get other = redis.get other := by
  simp [set, get, differs, get_del]

@[simp]
theorem get_del_self : (redis.del key).get key = none := by
  simp [get_del]

@[simp]
theorem get_del_of_ne (differs : key ≠ other) : (redis.del key).get other = redis.get other := by
  simp [get_del, differs]

end Keyspace

/-- How a Redis command ended. -/
inductive Outcome where
  | done
  | failed (err : String) (applied : Bool)
  deriving DecidableEq

namespace Outcome

/-- Whether a write took effect. -/
def applied : Outcome → Bool
  | .done => true
  | .failed _ applied => applied

/-- The error the command returns. -/
def error? : Outcome → Option String
  | .done => none
  | .failed err _ => some err

end Outcome

/-- A write command: the database after it, as far as it took effect. -/
def write {Database : Type} (outcome : Outcome) (redis : Database) (update : Database → Database) :
    Database :=
  if outcome.applied then update redis else redis

def configKeyPrefix : String := "transisidb:config"

/-- `fmt.Sprintf("%s:main", ConfigKeyPrefix)`. -/
def mainKey : String := configKeyPrefix ++ ":main"

/-- `fmt.Sprintf("%s:timestamp", ConfigKeyPrefix)`. -/
def timestampKey : String := configKeyPrefix ++ ":timestamp"

/-- `fmt.Sprintf("%s:tables:%s", ConfigKeyPrefix, tableName)`. -/
def tableKey (tableName : String) : String := configKeyPrefix ++ ":tables:" ++ tableName

theorem tableKey_injective {name other : String} (same : tableKey name = tableKey other) :
    name = other := by
  have data := congrArg String.data same
  simp only [tableKey, String.data_append] at data
  exact String.ext (List.append_cancel_left data)

theorem tableKey_take (name : String) :
    (tableKey name).data.take 20 = "transisidb:config:ta".data := by
  simp only [tableKey, String.data_append]
  rw [List.take_append_of_le_length (by decide)]
  decide

theorem tableKey_ne_mainKey (name : String) : tableKey name ≠ mainKey := fun same => by
  have taken := tableKey_take name
  rw [same] at taken
  exact absurd taken (by decide)

theorem tableKey_ne_timestampKey (name : String) : tableKey name ≠ timestampKey := fun same => by
  have taken := tableKey_take name
  rw [same] at taken
  exact absurd taken (by decide)

theorem mainKey_ne_timestampKey : mainKey ≠ timestampKey := by
  decide

/-! ## The store's functions -/

section Store

variable (redis : Keyspace)

/-- The first command of `SaveConfig`: `SET` of the configuration. -/
def saveConfigDocument (doc : ConfigDocument) (setConfig : Outcome) : Option String × Keyspace :=
  (setConfig.error?.map ("failed to save config to Redis: " ++ ·),
    write setConfig redis (·.set mainKey (.config doc)))

/-- The second command of `SaveConfig`: `SET` of the time, `time.Now().Unix()`. -/
def saveConfigTimestamp (now : Int) (setTimestamp : Outcome) : Option String × Keyspace :=
  (setTimestamp.error?.map ("failed to save timestamp: " ++ ·),
    write setTimestamp redis (·.set timestampKey (.timestamp now)))

/-- `SaveConfig`: the second command runs only if the first returned no error. -/
def saveConfig (doc : ConfigDocument) (now : Int) (setConfig setTimestamp : Outcome) :
    Option String × Keyspace :=
  match saveConfigDocument redis doc setConfig with
  | (some err, redis) => (some err, redis)
  | (none, redis) => saveConfigTimestamp redis now setTimestamp

/-- `LoadConfig`; a value of another kind under the key fails to decode. -/
def loadConfig (getConfig : Outcome) : Except String ConfigDocument :=
  match getConfig.error? with
  | some err => .error ("failed to load config from Redis: " ++ err)
  | none =>
      match redis.get mainKey with
      | none => .error "config not found in Redis"
      | some (.config doc) => .ok doc
      | some _ => .error "failed to unmarshal config"

/-- `GetConfigTimestamp`: `0` when no configuration was saved. -/
def getConfigTimestamp (getTimestamp : Outcome) : Except String Int :=
  match getTimestamp.error? with
  | some err => .error ("failed to get timestamp: " ++ err)
  | none =>
      match redis.get timestampKey with
      | none => .ok 0
      | some (.timestamp unix) => .ok unix
      | some _ => .error "failed to get timestamp"

/-- `SaveTableConfig`: the error of the `SET` as it is. -/
def saveTableConfig (tableName : String) (tableConfig : TableConfig) (setTable : Outcome) :
    Option String × Keyspace :=
  (setTable.error?, write setTable redis (·.set (tableKey tableName) (.table tableConfig)))

def loadTableConfig (tableName : String) (getTable : Outcome) : Except String TableConfig :=
  match getTable.error? with
  | some err => .error ("failed to load table config: " ++ err)
  | none =>
      match redis.get (tableKey tableName) with
      | none => .error ("table config not found: " ++ tableName)
      | some (.table tableConfig) => .ok tableConfig
      | some _ => .error "failed to unmarshal table config"

/-- `DeleteTableConfig`: the error of the `DEL` as it is. -/
def deleteTableConfig (tableName : String) (delTable : Outcome) : Option String × Keyspace :=
  (delTable.error?, write delTable redis (·.del (tableKey tableName)))

/-- `ConfigKeyPrefix + ":tables:"`, whose length is `parts`. -/
def tablesPrefix : String := configKeyPrefix ++ ":tables:"

/-- The name `ListTables` takes from a key under `tablesPrefix`: `key[parts:]`. -/
def tableNameOfKey (key : String) : Option String :=
  if key.data.take tablesPrefix.length = tablesPrefix.data ∧ key.length > tablesPrefix.length
  then some ⟨key.data.drop tablesPrefix.length⟩ else none

/-- `ListTables`.  The `SCAN` is read as one pass over the keyspace, in its order. -/
def listTables (scan : Outcome) : Except String (List String) :=
  match scan.error? with
  | some err => .error ("failed to scan tables: " ++ err)
  | none => .ok (redis.filterMap fun entry => tableNameOfKey entry.1)

end Store

theorem length_pos_of_ne_empty {text : String} (nonempty : text ≠ "") : 0 < text.length := by
  cases text with
  | mk data =>
      cases data with
      | nil => exact absurd rfl nonempty
      | cons c rest => exact Nat.succ_pos rest.length

theorem tableKey_eq_append (tableName : String) : tableKey tableName = tablesPrefix ++ tableName :=
  rfl

theorem Keyspace.get_isSome_iff (redis : Keyspace) (key : String) :
    (redis.get key).isSome ↔ ∃ value, (key, value) ∈ redis := by
  induction redis with
  | nil => simp [Keyspace.get]
  | cons entry rest inductionHypothesis =>
      obtain ⟨name, value⟩ := entry
      by_cases same : name = key
      · subst same
        simp [Keyspace.get]
      · simp [Keyspace.get, same, inductionHypothesis, Ne.symm same]

theorem tableNameOfKey_eq_some_iff (key name : String) :
    tableNameOfKey key = some name ↔ key = tableKey name ∧ name ≠ "" := by
  rw [tableKey_eq_append]
  constructor
  · intro named
    unfold tableNameOfKey at named
    split_ifs at named with prefixed
    cases named
    refine ⟨String.ext ?_, fun empty => ?_⟩
    · rw [String.data_append, ← prefixed.1, List.take_append_drop]
    · have drained : key.data.drop tablesPrefix.length = [] := congrArg String.data empty
      have longer := prefixed.2
      simp only [String.length, List.drop_eq_nil_iff] at longer drained
      omega
  · rintro ⟨rfl, nonempty⟩
    have longer := length_pos_of_ne_empty nonempty
    have prefixed : (tablesPrefix ++ name).data.take tablesPrefix.length = tablesPrefix.data := by
      rw [String.data_append, List.take_left']
      rfl
    have named : (tablesPrefix ++ name).data.drop tablesPrefix.length = name.data := by
      rw [String.data_append, List.drop_left']
      rfl
    have longerKey : (tablesPrefix ++ name).length > tablesPrefix.length := by
      rw [String.length_append]
      omega
    simp only [tableNameOfKey, prefixed, named, longerKey, and_self, if_true]

theorem tableKey_inj {name other : String} : tableKey name = tableKey other ↔ name = other :=
  ⟨tableKey_injective, congrArg tableKey⟩

theorem loadConfig_eq_ok {redis : Keyspace} {getConfig : Outcome} {doc : ConfigDocument}
    (loaded : loadConfig redis getConfig = .ok doc) : redis.get mainKey = some (.config doc) := by
  unfold loadConfig at loaded
  split at loaded
  · cases loaded
  · split at loaded <;> (cases loaded; try assumption)

theorem loadTableConfig_eq_ok {redis : Keyspace} {tableName : String} {getTable : Outcome}
    {tableConfig : TableConfig}
    (loaded : loadTableConfig redis tableName getTable = .ok tableConfig) :
    redis.get (tableKey tableName) = some (.table tableConfig) := by
  unfold loadTableConfig at loaded
  split at loaded
  · cases loaded
  · split at loaded <;> (cases loaded; try assumption)

theorem mem_listTables (redis : Keyspace) {names : List String}
    (listed : listTables redis .done = .ok names) (name : String) :
    name ∈ names ↔ name ≠ "" ∧ (redis.get (tableKey name)).isSome := by
  simp only [listTables, Outcome.error?, Except.ok.injEq] at listed
  subst listed
  simp only [List.mem_filterMap, tableNameOfKey_eq_some_iff, Keyspace.get_isSome_iff]
  constructor
  · rintro ⟨⟨key, value⟩, mem, rfl, nonempty⟩
    exact ⟨nonempty, value, mem⟩
  · rintro ⟨nonempty, value, mem⟩
    exact ⟨_, mem, rfl, nonempty⟩

/-! ## What each write leaves under each key -/

section Writes

variable (redis : Keyspace) (key : String)

theorem write_get (outcome : Outcome) (update : Keyspace → Keyspace) :
    (write outcome redis update).get key =
      if outcome.applied then (update redis).get key else redis.get key := by
  unfold write
  split <;> rfl

theorem saveTableConfig_get (tableName : String) (tableConfig : TableConfig) (setTable : Outcome) :
    (saveTableConfig redis tableName tableConfig setTable).2.get key =
      if setTable.applied ∧ key = tableKey tableName then some (.table tableConfig)
      else redis.get key := by
  simp only [saveTableConfig, write_get]
  by_cases same : key = tableKey tableName
  · subst same
    cases setTable.applied <;> simp
  · cases setTable.applied <;> simp [same, Ne.symm same]

theorem deleteTableConfig_get (tableName : String) (delTable : Outcome) :
    (deleteTableConfig redis tableName delTable).2.get key =
      if delTable.applied ∧ key = tableKey tableName then none else redis.get key := by
  simp only [deleteTableConfig, write_get]
  by_cases same : key = tableKey tableName
  · subst same
    cases delTable.applied <;> simp
  · cases delTable.applied <;> simp [same, Ne.symm same]

theorem saveConfigDocument_get (doc : ConfigDocument) (setConfig : Outcome) :
    (saveConfigDocument redis doc setConfig).2.get key =
      if setConfig.applied ∧ key = mainKey then some (.config doc) else redis.get key := by
  simp only [saveConfigDocument, write_get]
  by_cases same : key = mainKey
  · subst same
    cases setConfig.applied <;> simp
  · cases setConfig.applied <;> simp [same, Ne.symm same]

theorem saveConfigTimestamp_get (now : Int) (setTimestamp : Outcome) :
    (saveConfigTimestamp redis now setTimestamp).2.get key =
      if setTimestamp.applied ∧ key = timestampKey then some (.timestamp now)
      else redis.get key := by
  simp only [saveConfigTimestamp, write_get]
  by_cases same : key = timestampKey
  · subst same
    cases setTimestamp.applied <;> simp
  · cases setTimestamp.applied <;> simp [same, Ne.symm same]

end Writes

end TransisiDB.RedisStore
