import Mathlib.Data.Rat.Floor
import TransisiDB.Config
import TransisiDB.Config.RedisKeys

set_option autoImplicit false

/-!
# The query-result cache

`Manager` of package `cache`: `Get`, `Set`, `Invalidate` and `InvalidateAll` over the cache's
Redis database, the key `generateKey` builds and the per-table settings they read.  A manager's
settings never change; its counters and the database do, so a call takes the manager and the
`State` and returns the new state.  Calls come one at a time, as the package's only caller, its
test, makes them.  Each call has the `time.Now()` it reads and the replies Redis gives it; Redis
itself may drop any key at any moment (`evict`), as a key's TTL running out or
`maxmemory-policy` does, so what is proved holds whatever the TTLs and the eviction policy.

`crypto/md5` is not modelled: the digest of a query is a parameter, of which only its sixteen
bytes are used.  Redis holds the bytes `json.Marshal` wrote for an entry; the model keeps them
as the entry `json.Unmarshal` reads back from them, whose rows hold every number as a `float64`
and every `[]byte` as its base64 text.  A marshal failure is an argument of the call.  `KEYS`
matches with Redis's glob, `stringmatchlen`, read over characters where Redis reads bytes.

* `generateKey_inj`: two queries of two tables share a key only if the tables are the same
  and the digests of the queries are equal, whatever characters the tables' names hold.
* `invalidate_get`: once `Invalidate` of a table whose name has no glob character returns no
  error, no later `Get` of that table hits until a `Set` of that table; a name such as `t[1]`
  is not cleared at all.
* `run_get_hit`: over every run from a database whose keys hold what `Set` writes, every hit
  of `Get` is an entry of the table asked for, of a query with the same digest, and not past its
  expiry, which is the table's TTL after it was cached: with a TTL of zero or less no entry is
  hit after the instant it was stored.
* `set_run_get`: a `Get` by the expiry of an entry returns what the `Set` built, its rows
  through the JSON round trip (an `int64` above `2 ^ 53` comes back rounded), across every run
  of calls in between that cannot drop its key.
-/

namespace TransisiDB.Cache

open TransisiDB.RedisStore (Outcome write)

/-! ## Keys -/

/-- The sixteen bytes `md5.Sum` returns. -/
structure Digest where
  bytes : List UInt8
  sixteen : bytes.length = 16

theorem Digest.ext {a b : Digest} (same : a.bytes = b.bytes) : a = b := by
  cases a
  cases b
  cases same
  rfl

/-- A lowercase hexadecimal digit. -/
def hexLower (d : Nat) : Char :=
  if d < 10 then Char.ofNat (48 + d) else Char.ofNat (87 + d)

/-- The two digits of a byte, the high one first. -/
def hexByte (b : UInt8) : List Char :=
  [hexLower (b.toNat / 16), hexLower (b.toNat % 16)]

def encodeToString (bytes : List UInt8) : String :=
  ⟨bytes.flatMap hexByte⟩

theorem hexLower_inj {d e : Nat} (small : d < 16) (smallE : e < 16)
    (same : hexLower d = hexLower e) : d = e := by
  have digits : ∀ d e : Fin 16, hexLower d = hexLower e → d = e := by decide
  exact congrArg Fin.val (digits ⟨d, small⟩ ⟨e, smallE⟩ same)

theorem hexByte_inj {b c : UInt8} (same : hexByte b = hexByte c) : b = c := by
  simp only [hexByte, List.cons.injEq, and_true] at same
  have below : ∀ x : UInt8, x.toNat < 256 := fun x => x.val.isLt
  have high := hexLower_inj (Nat.div_lt_of_lt_mul (below b)) (Nat.div_lt_of_lt_mul (below c))
    same.1
  have low := hexLower_inj (Nat.mod_lt _ (by decide)) (Nat.mod_lt _ (by decide)) same.2
  exact UInt8.toNat.inj (by rw [← Nat.div_add_mod b.toNat 16, high, low, Nat.div_add_mod])

theorem length_encodeToString (bytes : List UInt8) :
    (encodeToString bytes).data.length = 2 * bytes.length := by
  induction bytes with
  | nil => rfl
  | cons b rest inductionHypothesis =>
      simp only [encodeToString, List.flatMap_cons, List.length_append] at inductionHypothesis ⊢
      rw [inductionHypothesis]
      simp only [hexByte, List.length_cons, List.length_nil]
      omega

theorem encodeToString_inj : ∀ {bytes other : List UInt8},
    encodeToString bytes = encodeToString other → bytes = other
  | [], [], _ => rfl
  | [], _ :: _, same => by simp [encodeToString, hexByte, String.ext_iff] at same
  | _ :: _, [], same => by simp [encodeToString, hexByte, String.ext_iff] at same
  | b :: rest, c :: more, same => by
      have data := congrArg String.data same
      simp only [encodeToString, List.flatMap_cons] at data
      obtain ⟨first, tail⟩ := List.append_inj data (by simp [hexByte])
      rw [hexByte_inj first, encodeToString_inj (String.ext tail)]

section Keys

variable (md5 : String → Digest)

/-- `generateKey`: `cache:table:`, the table, `:query:` and the hexadecimal digest. -/
def generateKey (query tableName : String) : String :=
  "cache:table:" ++ tableName ++ ":query:" ++ encodeToString (md5 query).bytes

theorem generateKey_inj {query other tableName otherTable : String}
    (same : generateKey md5 query tableName = generateKey md5 other otherTable) :
    tableName = otherTable ∧ md5 query = md5 other := by
  have data := congrArg String.data same
  simp only [generateKey, String.data_append] at data
  have digits : (encodeToString (md5 query).bytes).data.length =
      (encodeToString (md5 other).bytes).data.length := by
    rw [length_encodeToString, length_encodeToString, (md5 query).sixteen, (md5 other).sixteen]
  obtain ⟨front, back⟩ := List.append_inj' data digits
  exact ⟨String.ext (List.append_cancel_left (List.append_cancel_right front)),
    Digest.ext (encodeToString_inj (String.ext back))⟩

end Keys

/-! ## `KEYS` patterns -/

/-- The characters `stringmatchlen` reads as more than themselves. -/
def globChars : List Char := ['*', '?', '[', '\\']

/-- Whether `c` lies between the ends of a range `[low-high]`, taken in either order. -/
def inRange (low high c : Char) : Bool :=
  if high < low then high ≤ c ∧ c ≤ low else low ≤ c ∧ c ≤ high

/-- A class `[...]` of `stringmatchlen`: whether `c` is in it, and the pattern after it. -/
def matchClass (c : Char) : List Char → Bool × List Char
  | [] => (false, [])
  | '\\' :: escaped :: rest => ((matchClass c rest).1 || escaped == c, (matchClass c rest).2)
  | ']' :: rest => (false, rest)
  | low :: '-' :: high :: rest =>
      ((matchClass c rest).1 || inRange low high c, (matchClass c rest).2)
  | other :: rest => ((matchClass c rest).1 || other == c, (matchClass c rest).2)

/-- Whether a class is negated by `^`, and its members. -/
def classMembers : List Char → Bool × List Char
  | '^' :: members => (true, members)
  | members => (false, members)

/-- A literal of the pattern, `\` taking the character after it as it is. -/
def literalOf (p : Char) (ps : List Char) : Char × List Char :=
  if p = '\\' then
    match ps with
    | escaped :: rest => (escaped, rest)
    | [] => (p, [])
  else (p, ps)

/-- One element of a pattern other than `*` against `s`: the rest of the pattern, if it matches. -/
def matchOne (p : Char) (ps : List Char) (s : Char) : Option (List Char) :=
  if p = '?' then some ps
  else if p = '[' then
    let members := classMembers ps
    let found := matchClass s members.2
    if found.1 != members.1 then some found.2 else none
  else
    let literal := literalOf p ps
    if literal.1 = s then some literal.2 else none

/-- `stringmatchlen` without `nocase`; one more than the pattern's length is fuel enough. -/
def stringmatchWith : Nat → List Char → List Char → Bool
  | 0, _, _ => false
  | _ + 1, [], key => key.isEmpty
  | _ + 1, _ :: _, [] => false
  | fuel + 1, p :: ps, s :: ss =>
      if p = '*' then
        let rest := ps.dropWhile (· == '*')
        rest.isEmpty ||
          (s :: ss).tails.any fun suffix => !suffix.isEmpty && stringmatchWith fuel rest suffix
      else
        match matchOne p ps s with
        | none => false
        -- at the key's end, only stars may be left of the pattern
        | some rest =>
            if ss.isEmpty then (rest.dropWhile (· == '*')).isEmpty
            else stringmatchWith fuel rest ss

/-- Whether `KEYS pattern` lists `key`. -/
def stringmatch (pattern key : String) : Bool :=
  stringmatchWith (pattern.length + 1) pattern.data key.data

theorem matchClass_length_le (c : Char) (members : List Char) :
    (matchClass c members).2.length ≤ members.length := by
  unfold matchClass
  split
  · exact le_refl _
  · next _ _ rest => simp only [List.length_cons]; have := matchClass_length_le c rest; omega
  · simp
  · next _ _ _ rest _ _ =>
      simp only [List.length_cons]; have := matchClass_length_le c rest; omega
  · next _ _ rest _ _ _ =>
      simp only [List.length_cons]; have := matchClass_length_le c rest; omega
termination_by members.length

theorem matchOne_length_le {p s : Char} {ps rest : List Char}
    (matched : matchOne p ps s = some rest) : rest.length ≤ ps.length := by
  simp only [matchOne] at matched
  split_ifs at matched with anyChar classStart classMatched literalMatched
  · cases matched
    exact le_refl _
  · cases matched
    refine (matchClass_length_le s _).trans ?_
    unfold classMembers
    split <;> simp
  · cases matched
    unfold literalOf
    split_ifs
    · split <;> simp
    · exact le_refl _

theorem stringmatchWith_fuel : ∀ (fuel more : Nat) (pattern key : List Char),
    pattern.length < fuel → pattern.length < more →
      stringmatchWith fuel pattern key = stringmatchWith more pattern key
  | 0, _, _, _, short, _ => absurd short (Nat.not_lt_zero _)
  | _ + 1, 0, _, _, _, short => absurd short (Nat.not_lt_zero _)
  | _ + 1, _ + 1, [], _, _, _ => rfl
  | _ + 1, _ + 1, _ :: _, [], _, _ => rfl
  | fuel + 1, more + 1, p :: ps, s :: ss, short, shortMore => by
      have same : ∀ rest : List Char, rest.length ≤ ps.length →
          stringmatchWith fuel rest = stringmatchWith more rest := fun rest shorter =>
        funext fun key => stringmatchWith_fuel fuel more rest key
          (by simp only [List.length_cons] at short; omega)
          (by simp only [List.length_cons] at shortMore; omega)
      simp only [stringmatchWith]
      by_cases star : p = '*'
      · simp only [star, if_true, same _ (List.dropWhile_suffix _).length_le]
      · simp only [star, if_false]
        cases found : matchOne p ps s with
        | none => rfl
        | some rest => simp only [same rest (matchOne_length_le found)]

theorem matchOne_of_not_glob {p s : Char} (ps : List Char) (plain : p ∉ globChars) :
    matchOne p ps s = if p = s then some ps else none := by
  simp only [globChars, List.mem_cons, List.mem_singleton, not_or] at plain
  simp [matchOne, literalOf, plain]

theorem stringmatchWith_literal_star :
    ∀ (literal : List Char), (∀ c ∈ literal, c ∉ globChars) → literal ≠ [] →
      ∀ (key : List Char) (fuel : Nat), literal.length < fuel →
        stringmatchWith fuel (literal ++ ['*']) key = literal.isPrefixOf key
  | [], _, nonempty, _, _, _ => absurd rfl nonempty
  | _ :: _, _, _, _, 0, enough => absurd enough (Nat.not_lt_zero _)
  | _ :: _, _, _, [], _ + 1, _ => rfl
  | c :: rest, plain, _, s :: ss, fuel + 1, enough => by
      have notGlob : c ∉ globChars := plain c (List.mem_cons_self c rest)
      have notStar : c ≠ '*' := fun star => notGlob (by simp [star, globChars])
      simp only [List.cons_append, stringmatchWith, notStar, if_false,
        matchOne_of_not_glob _ notGlob, List.isPrefixOf]
      by_cases same : c = s
      · subst same
        simp only [if_true, beq_self_eq_true, Bool.true_and]
        cases rest with
        | nil =>
            cases ss with
            | nil => rfl
            | cons t ts =>
                obtain ⟨fuel, rfl⟩ : ∃ f, fuel = f + 1 :=
                  ⟨fuel - 1, by simp only [List.length_singleton] at enough; omega⟩
                simp [stringmatchWith]
        | cons d more =>
            have notStarD : d ≠ '*' := fun star => plain d (by simp) (by simp [globChars, star])
            cases ss with
            | nil => simp [notStarD, List.isPrefixOf]
            | cons t ts =>
                simp only [List.isEmpty_cons, Bool.false_eq_true, if_false]
                exact stringmatchWith_literal_star (d :: more)
                  (fun x mem => plain x (List.mem_cons_of_mem c mem)) (List.cons_ne_nil _ _)
                  (t :: ts) fuel (by simp only [List.length_cons] at enough ⊢; omega)
      · simp [same]

section Keys

variable (md5 : String → Digest)

theorem stringmatch_generateKey {tableName : String}
    (plain : ∀ c ∈ tableName.data, c ∉ globChars) (query : String) :
    stringmatch ("cache:table:" ++ tableName ++ ":*") (generateKey md5 query tableName) = true := by
  have prefixed : ∀ c ∈ ("cache:table:" ++ tableName ++ ":").data, c ∉ globChars := by
    simp only [String.data_append, List.mem_append]
    rintro c ((fixed | named) | colon)
    · revert c
      decide
    · exact plain c named
    · revert c
      decide
  have pattern : ("cache:table:" ++ tableName ++ ":*").data =
      ("cache:table:" ++ tableName ++ ":").data ++ ['*'] := by
    simp only [String.data_append, List.append_assoc]
    rfl
  have key : (generateKey md5 query tableName).data =
      ("cache:table:" ++ tableName ++ ":").data ++
        ("query:" ++ encodeToString (md5 query).bytes).data := by
    simp only [generateKey, String.data_append, List.append_assoc]
    rfl
  unfold stringmatch
  have fuel : ("cache:table:" ++ tableName ++ ":").data.length <
      ("cache:table:" ++ tableName ++ ":*").length + 1 := by
    show _ < ("cache:table:" ++ tableName ++ ":*").data.length + 1
    rw [pattern, List.length_append]
    omega
  rw [pattern, key, stringmatchWith_literal_star _ prefixed (by simp [String.data_append]) _ _
    fuel]
  exact List.isPrefixOf_iff_prefix.mpr (List.prefix_append _ _)

example : stringmatch ("cache:table:" ++ "t[1]" ++ ":*")
    (generateKey (fun _ => ⟨List.replicate 16 0, rfl⟩) "SELECT 1" "t[1]") = false := by
  decide

end Keys

/-! ## Rows and their JSON round trip -/

/-- A value of a `map[string]interface{}` row, of a kind a driver puts there. -/
inductive Cell where
  | null
  | bool (value : Bool)
  | int64 (value : Int)
  | float64 (value : ℚ)
  | string (value : String)
  | bytes (value : List UInt8)
  deriving DecidableEq, Repr

/-- `[]map[string]interface{}`: each row its columns and their values. -/
abbrev Results := List (List (String × Cell))

/-- The bits of `m` beyond a 53-bit significand; `fuel` 64 covers every `int64`. -/
def excessBits : Nat → Nat → Nat
  | 0, _ => 0
  | fuel + 1, m => if m < 2 ^ 53 then 0 else excessBits fuel (m / 2) + 1

/-- `m` rounded to the nearest multiple of `2 ^ shift`, a tie to the even multiple. -/
def roundToMultiple (m shift : Nat) : Nat :=
  let unit := 2 ^ shift
  let q := m / unit
  let r := m % unit
  (if 2 * r < unit then q else if unit < 2 * r then q + 1 else if q % 2 = 0 then q else q + 1) *
    unit

/-- The nearest `float64` to an integer, a tie to even, as `json` reads an `int64` back. -/
def float64OfInt (n : Int) : ℚ :=
  let magnitude := roundToMultiple n.natAbs (excessBits 64 n.natAbs)
  if n < 0 then -(magnitude : ℚ) else magnitude

theorem excessBits_of_lt {m : Nat} (small : m < 2 ^ 53) (fuel : Nat) : excessBits fuel m = 0 := by
  cases fuel <;> simp only [excessBits, small, if_true]

theorem float64OfInt_of_small {n : Int} (small : n.natAbs < 2 ^ 53) : float64OfInt n = n := by
  have exact : roundToMultiple n.natAbs 0 = n.natAbs := by simp [roundToMultiple, Nat.mod_one]
  simp only [float64OfInt, excessBits_of_lt small, exact, Int.cast_natAbs]
  split_ifs with negative
  · rw [abs_of_neg negative, Int.cast_neg, neg_neg]
  · rw [abs_of_nonneg (not_lt.mp negative)]

example : float64OfInt (2 ^ 53 + 1) = 2 ^ 53 := by decide

/-- The alphabet of `base64.StdEncoding`. -/
def base64Alphabet : List Char :=
  "ABCDEFGHIJKLMNOPQRSTUVWXYZabcdefghijklmnopqrstuvwxyz0123456789+/".data

def base64Digit (group : Nat) : Char :=
  base64Alphabet.getD group '='

/-- `base64.StdEncoding.EncodeToString`, three bytes to four digits, padded with `=`. -/
def base64Encode : List UInt8 → List Char
  | a :: b :: c :: rest =>
      let n := a.toNat * 65536 + b.toNat * 256 + c.toNat
      [base64Digit (n / 262144), base64Digit (n / 4096 % 64), base64Digit (n / 64 % 64),
        base64Digit (n % 64)] ++ base64Encode rest
  | [a, b] =>
      let n := a.toNat * 65536 + b.toNat * 256
      [base64Digit (n / 262144), base64Digit (n / 4096 % 64), base64Digit (n / 64 % 64), '=']
  | [a] =>
      let n := a.toNat * 65536
      [base64Digit (n / 262144), base64Digit (n / 4096 % 64), '=', '=']
  | [] => []

/-- What `json.Unmarshal` into an `interface{}` gives back for what `json.Marshal` wrote. -/
def Cell.decode : Cell → Cell
  | .int64 value => .float64 (float64OfInt value)
  | .bytes value => .string ⟨base64Encode value⟩
  | cell => cell

/-- The rows of an entry after `json.Marshal` and `json.Unmarshal`. -/
def decodeResults (results : Results) : Results :=
  results.map fun row => row.map fun (column, cell) => (column, cell.decode)

/-! ## The cache's database -/

structure CacheEntry where
  query : String
  results : Results
  cachedAt : Int
  expiresAt : Int
  tableName : String
  deriving DecidableEq

/-- The cache's Redis database: each key with the entry stored under it. -/
abbrev Keyspace := List (String × CacheEntry)

namespace Keyspace

/-- `Get` at time `now`, with the replies of its `GET` and `DEL`. -/
def get : Keyspace → String → Option (CacheEntry)
  | [], _ => none
  | (stored, entry) :: rest, key => if stored = key then some entry else get rest key

/-- `DEL keys...`. -/
def del (redis : Keyspace) (keys : List String) : Keyspace :=
  redis.filter fun stored => stored.1 ∉ keys

/-- `Set` at time `now`, with the error of `json.Marshal` and the reply of the `SET`. -/
def set (redis : Keyspace) (key : String) (entry : CacheEntry) :
    Keyspace :=
  (key, entry) :: redis.del [key]

/-- `KEYS pattern`, in Redis's `keysCommand`: `*` alone lists every key. -/
def keys (redis : Keyspace) (pattern : String) : List String :=
  (redis.map Prod.fst).filter fun key => pattern == "*" || stringmatch pattern key

variable (redis : Keyspace)

theorem get_del (keys : List String) (key : String) :
    (redis.del keys).get key = if key ∈ keys then none else redis.get key := by
  induction redis with
  | nil => simp [del, get]
  | cons head rest inductionHypothesis =>
      obtain ⟨stored, entry⟩ := head
      by_cases same : stored = key
      · subst same
        by_cases listed : stored ∈ keys <;> simp_all [del, get]
      · by_cases listed : stored ∈ keys <;> simp_all [del, get]

theorem get_set (key other : String) (entry : CacheEntry) :
    (redis.set key entry).get other = if key = other then some entry else redis.get other := by
  by_cases same : key = other <;> simp [set, get, get_del, same, Ne.symm]

theorem mem_keys_of_get {key pattern : String} {entry : CacheEntry}
    (found : redis.get key = some entry) (matched : stringmatch pattern key = true) :
    key ∈ redis.keys pattern := by
  refine List.mem_filter.mpr ⟨?_, by simp [matched]⟩
  induction redis with
  | nil => cases found
  | cons head rest inductionHypothesis =>
      obtain ⟨stored, _⟩ := head
      by_cases same : stored = key
      · simp [same]
      · simp only [get, same, if_false] at found
        exact List.mem_cons_of_mem _ (inductionHypothesis found)

/-- Every key of `after` holds what it held in `before`, or nothing: only deletions. -/
def Shrinks (before after : Keyspace) : Prop :=
  ∀ key, after.get key = before.get key ∨ after.get key = none

theorem Shrinks.refl : Shrinks redis redis := fun _ => .inl rfl

theorem shrinks_del (keys : List String) : Shrinks redis (redis.del keys) := fun key => by
  rw [get_del]
  split_ifs
  · exact .inr rfl
  · exact .inl rfl

theorem shrinks_write (outcome : Outcome) {update : Keyspace → Keyspace}
    (shrinks : Shrinks redis (update redis)) : Shrinks redis (write outcome redis update) := by
  unfold write
  split_ifs
  · exact shrinks
  · exact Shrinks.refl redis

end Keyspace

/-! ## The manager -/

structure TableCacheConfig where
  enabled : Bool
  ttl : Int

/-- `Config`, without the settings only Redis reads. -/
structure Config where
  enabled : Bool
  defaultTTL : Int
  tableConfigs : GoMap TableCacheConfig

structure Stats where
  hits : Nat
  misses : Nat
  writes : Nat
  invalidations : Nat
  errors : Nat
  deriving DecidableEq

/-- What a `Manager` is set up with and never changes. -/
structure Manager where
  enabled : Bool
  config : Config

/-- What the calls change: the manager's counters and the cache's database. -/
structure State where
  stats : Stats
  redis : Keyspace

/-- The manager `NewManager` returns for a nil or disabled config. -/
def Manager.disabled : Manager :=
  ⟨false, ⟨false, 0, GoMap.empty⟩⟩

/-- `NewManager`: off for a nil or disabled config, an error if `PING` fails. -/
def newManager (cfg : Option Config) (ping : Option String) : Except String Manager :=
  match cfg with
  | some cfg =>
      if cfg.enabled then
        match ping with
        | some err => .error ("failed to connect to Redis: " ++ err)
        | none => .ok ⟨true, cfg⟩
      else .ok .disabled
  | none => .ok .disabled

namespace Manager

variable (m : Manager) (md5 : String → Digest)

/-- `isTableCachingEnabled`: the table's own setting, else the manager's. -/
def isTableCachingEnabled (tableName : String) : Bool :=
  match m.config.tableConfigs.get? tableName with
  | some tableConfig => tableConfig.enabled
  | none => m.enabled

/-- `getTTL`: the table's own TTL if it is positive, else `DefaultTTL`. -/
def getTTL (tableName : String) : Int :=
  match m.config.tableConfigs.get? tableName with
  | some tableConfig => if tableConfig.ttl > 0 then tableConfig.ttl else m.config.defaultTTL
  | none => m.config.defaultTTL

/-- `Get` at time `now`, with the replies of its `GET` and `DEL`. -/
def get (state : State) (query tableName : String) (now : Int)
    (getError : Option String) (delReply : Outcome) :
    Except String (CacheEntry) × State :=
  if !m.enabled then (.error "cache disabled", state)
  else if !m.isTableCachingEnabled tableName then
    (.error ("caching disabled for table: " ++ tableName),
      { state with stats.misses := state.stats.misses + 1 })
  else
    let key := generateKey md5 query tableName
    match getError, state.redis.get key with
    | some err, _ =>
        (.error ("cache get error: " ++ err), { state with stats.errors := state.stats.errors + 1 })
    | none, none => (.error "cache miss", { state with stats.misses := state.stats.misses + 1 })
    | none, some entry =>
        -- the double check of `ExpiresAt`
        if now > entry.expiresAt then
          (.error "cache expired",
            { state with
              stats.misses := state.stats.misses + 1
              redis := write delReply state.redis (·.del [key]) })
        else (.ok entry, { state with stats.hits := state.stats.hits + 1 })

/-- `Set` at time `now`, with the error of `json.Marshal` and the reply of the `SET`. -/
def set (state : State) (query tableName : String) (results : Results) (now : Int)
    (marshalError : Option String) (setReply : Outcome) : Option String × State :=
  if !m.enabled then (some "cache disabled", state)
  else if !m.isTableCachingEnabled tableName then (none, state)
  else
    let entry : CacheEntry :=
      ⟨query, decodeResults results, now, now + m.getTTL tableName, tableName⟩
    match marshalError with
    | some err =>
        (some ("cache marshal error: " ++ err),
          { state with stats.errors := state.stats.errors + 1 })
    | none =>
        let redis := write setReply state.redis (·.set (generateKey md5 query tableName) entry)
        match setReply.error? with
        | some err =>
            (some ("cache set error: " ++ err),
              { state with stats.errors := state.stats.errors + 1, redis })
        | none => (none, { state with stats.writes := state.stats.writes + 1, redis })

/-- `Invalidate`, with the replies of its `KEYS` and `DEL`. -/
def invalidate (state : State) (tableName : String) (keysError : Option String)
    (delReply : Outcome) : Option String × State :=
  if !m.enabled then (none, state)
  else
    match keysError with
    | some err =>
        (some ("cache invalidate error: " ++ err),
          { state with stats.errors := state.stats.errors + 1 })
    | none =>
        let keys := state.redis.keys ("cache:table:" ++ tableName ++ ":*")
        if keys.length > 0 then
          let redis := write delReply state.redis (·.del keys)
          match delReply.error? with
          | some err =>
              (some ("cache delete error: " ++ err),
                { state with stats.errors := state.stats.errors + 1, redis })
          | none =>
              (none,
                { state with
                  stats.invalidations := state.stats.invalidations + keys.length, redis })
        else (none, state)

/-- `InvalidateAll`: `flushReply` is the reply to `FLUSHDB`. -/
def invalidateAll (state : State) (flushReply : Outcome) :
    Option String × State :=
  if !m.enabled then (none, state)
  else
    let redis := write flushReply state.redis fun _ => []
    match flushReply.error? with
    | some err =>
        (some ("cache flush error: " ++ err),
          { state with stats.errors := state.stats.errors + 1, redis })
    | none => (none, { state with redis })

/-! ### What each call does to the database -/

variable (state : State)

theorem get_redis (query tableName : String) (now : Int) (getError : Option String)
    (delReply : Outcome) :
    (m.get md5 state query tableName now getError delReply).2.redis = state.redis ∨
      ∃ entry, state.redis.get (generateKey md5 query tableName) = some entry ∧
        now > entry.expiresAt ∧
        (m.get md5 state query tableName now getError delReply).2.redis =
          write delReply state.redis (·.del [generateKey md5 query tableName]) := by
  unfold get
  split_ifs
  · exact .inl rfl
  · exact .inl rfl
  · dsimp only
    split
    · exact .inl rfl
    · exact .inl rfl
    · next found =>
        split_ifs with expired
        · exact .inr ⟨_, found, expired, rfl⟩
        · exact .inl rfl

theorem get_shrinks (query tableName : String) (now : Int) (getError : Option String)
    (delReply : Outcome) :
    Keyspace.Shrinks state.redis
      (m.get md5 state query tableName now getError delReply).2.redis := by
  rcases m.get_redis md5 state query tableName now getError delReply with same | ⟨_, _, _, deleted⟩
  · rw [same]
    exact .refl _
  · rw [deleted]
    exact Keyspace.shrinks_write _ _ (Keyspace.shrinks_del _ _)

theorem set_get (query tableName : String) (results : Results) (now : Int)
    (marshalError : Option String) (setReply : Outcome) (key : String) :
    (m.set md5 state query tableName results now marshalError setReply).2.redis.get key =
        state.redis.get key ∨
      key = generateKey md5 query tableName ∧
        (m.set md5 state query tableName results now marshalError setReply).2.redis.get key =
          some ⟨query, decodeResults results, now, now + m.getTTL tableName, tableName⟩ := by
  have written : ∀ entry : CacheEntry,
      (write setReply state.redis (·.set (generateKey md5 query tableName) entry)).get key =
        state.redis.get key ∨
      key = generateKey md5 query tableName ∧
        (write setReply state.redis (·.set (generateKey md5 query tableName) entry)).get key =
          some entry := by
    intro entry
    unfold write
    split_ifs
    · rw [Keyspace.get_set]
      split_ifs with mine
      · exact .inr ⟨mine.symm, rfl⟩
      · exact .inl rfl
    · exact .inl rfl
  unfold set
  split_ifs
  · exact .inl rfl
  · exact .inl rfl
  · dsimp only
    split
    · exact .inl rfl
    · split <;> exact written _

theorem invalidate_redis (tableName : String) (keysError : Option String) (delReply : Outcome) :
    (m.invalidate state tableName keysError delReply).2.redis = state.redis ∨
      (m.invalidate state tableName keysError delReply).2.redis =
        write delReply state.redis
          (·.del (state.redis.keys ("cache:table:" ++ tableName ++ ":*"))) := by
  unfold invalidate
  split_ifs
  · exact .inl rfl
  · split
    · exact .inl rfl
    · dsimp only
      split_ifs
      · split <;> exact .inr rfl
      · exact .inl rfl

theorem invalidate_shrinks (tableName : String) (keysError : Option String)
    (delReply : Outcome) :
    Keyspace.Shrinks state.redis (m.invalidate state tableName keysError delReply).2.redis := by
  rcases m.invalidate_redis state tableName keysError delReply with same | deleted
  · rw [same]
    exact .refl _
  · rw [deleted]
    exact Keyspace.shrinks_write _ _ (Keyspace.shrinks_del _ _)

theorem invalidateAll_shrinks (flushReply : Outcome) :
    Keyspace.Shrinks state.redis (m.invalidateAll state flushReply).2.redis := by
  have flushed : Keyspace.Shrinks state.redis (write flushReply state.redis fun _ => []) :=
    Keyspace.shrinks_write _ _ fun _ => .inr rfl
  unfold invalidateAll
  split_ifs
  · exact .refl _
  · dsimp only
    split <;> exact flushed

theorem get_eq_ok {query tableName : String} {now : Int} {getError : Option String}
    {delReply : Outcome} {entry : CacheEntry}
    (hit : (m.get md5 state query tableName now getError delReply).1 = .ok entry) :
    m.enabled = true ∧ state.redis.get (generateKey md5 query tableName) = some entry ∧
      now ≤ entry.expiresAt := by
  unfold get at hit
  cases enabled : m.enabled
  · simp [enabled] at hit
  cases tableOn : m.isTableCachingEnabled tableName
  · simp [enabled, tableOn] at hit
  cases getError with
  | some err => simp [enabled, tableOn] at hit
  | none =>
      cases found : state.redis.get (generateKey md5 query tableName) with
      | none => simp [enabled, tableOn, found] at hit
      | some stored =>
          by_cases expired : now > stored.expiresAt <;>
            simp [enabled, tableOn, found, expired] at hit
          subst hit
          exact ⟨rfl, rfl, not_lt.mp expired⟩

end Manager

/-! ## Runs -/

/-- A call of the cache, with what it reads of the clock and the replies Redis gives it. -/
inductive Call where
  | get (query tableName : String) (now : Int) (getError : Option String) (delReply : Outcome)
  | set (query tableName : String) (results : Results) (now : Int) (marshalError : Option String)
      (setReply : Outcome)
  | invalidate (tableName : String) (keysError : Option String) (delReply : Outcome)
  | invalidateAll (flushReply : Outcome)
  | evict (key : String)

/-- What a call returns. -/
inductive Reply where
  | entry (result : Except String (CacheEntry))
  | error (err : Option String)
  | evicted

namespace Manager

variable (m : Manager) (md5 : String → Digest)

/-- One call. -/
def step (state : State) : Call → Reply × State
  | .get query tableName now getError delReply =>
      (m.get md5 state query tableName now getError delReply).map .entry id
  | .set query tableName results now marshalError setReply =>
      (m.set md5 state query tableName results now marshalError setReply).map .error id
  | .invalidate tableName keysError delReply =>
      (m.invalidate state tableName keysError delReply).map .error id
  | .invalidateAll flushReply => (m.invalidateAll state flushReply).map .error id
  | .evict key => (.evicted, { state with redis := state.redis.del [key] })

/-- A run: each call with its reply, and the state after the last. -/
def run (state : State) :
    List (Call) → List (Call × Reply) × State
  | [] => ([], state)
  | call :: rest =>
      let later := run (m.step md5 state call).2 rest
      ((call, (m.step md5 state call).1) :: later.1, later.2)

theorem step_get_key (state : State) (call : Call) (key : String) :
    (m.step md5 state call).2.redis.get key = state.redis.get key ∨
      (m.step md5 state call).2.redis.get key = none ∨
      ∃ query tableName results now marshalError setReply,
        call = .set query tableName results now marshalError setReply ∧
          key = generateKey md5 query tableName ∧
          (m.step md5 state call).2.redis.get key =
            some ⟨query, decodeResults results, now, now + m.getTTL tableName, tableName⟩ := by
  cases call with
  | get query tableName now getError delReply =>
      exact (m.get_shrinks md5 state query tableName now getError delReply key).imp_right .inl
  | set query tableName results now marshalError setReply =>
      rcases m.set_get md5 state query tableName results now marshalError setReply key with
        same | ⟨mine, stored⟩
      · exact .inl same
      · exact .inr (.inr ⟨_, _, _, _, _, _, rfl, mine, stored⟩)
  | invalidate tableName keysError delReply =>
      exact (m.invalidate_shrinks state tableName keysError delReply key).imp_right .inl
  | invalidateAll flushReply =>
      exact (m.invalidateAll_shrinks state flushReply key).imp_right .inl
  | evict evicted => exact (Keyspace.shrinks_del state.redis [evicted] key).imp_right .inl

theorem run_replies (Inv : State → Prop) :
    ∀ (calls : List (Call)) (state : State),
      (∀ before call, call ∈ calls → Inv before → Inv (m.step md5 before call).2) → Inv state →
        ∀ call reply, (call, reply) ∈ (m.run md5 state calls).1 →
          ∃ before, Inv before ∧ (m.step md5 before call).1 = reply
  | [], _, _, _, _, _, logged => by simp only [run, List.not_mem_nil] at logged
  | first :: rest, state, keeps, holds, call, reply, logged => by
      simp only [run, List.mem_cons] at logged
      rcases logged with now | later
      · cases now
        exact ⟨state, holds, rfl⟩
      · exact run_replies Inv rest _
          (fun before call mem => keeps before call (List.mem_cons_of_mem _ mem))
          (keeps state first (List.mem_cons_self _ _) holds) call reply later

/-! ## Hits -/

/-- Every key holds an entry `Set` would write under it. -/
def OwnKeys (redis : Keyspace) : Prop :=
  ∀ key entry, redis.get key = some entry →
    key = generateKey md5 entry.query entry.tableName ∧
      entry.expiresAt = entry.cachedAt + m.getTTL entry.tableName

theorem ownKeys_nil : m.OwnKeys md5 ([] : Keyspace) := fun _ _ found => by cases found

theorem step_ownKeys (state : State) (call : Call)
    (own : m.OwnKeys md5 state.redis) : m.OwnKeys md5 (m.step md5 state call).2.redis := by
  intro key entry found
  rcases m.step_get_key md5 state call key with same | gone | ⟨_, _, _, _, _, _, -, mine, stored⟩
  · exact own key entry (same ▸ found)
  · rw [gone] at found
    cases found
  · rw [stored] at found
    cases found
    exact ⟨mine, rfl⟩

/-- A hit of `Get` is an unexpired entry of the same table and query digest. -/
theorem run_get_hit (state : State) (calls : List (Call))
    (start : m.OwnKeys md5 state.redis) {query tableName : String} {now : Int}
    {getError : Option String} {delReply : Outcome} {entry : CacheEntry}
    (hit : (.get query tableName now getError delReply, .entry (.ok entry)) ∈
      (m.run md5 state calls).1) :
    entry.tableName = tableName ∧ md5 entry.query = md5 query ∧ now ≤ entry.expiresAt ∧
      entry.expiresAt = entry.cachedAt + m.getTTL tableName := by
  obtain ⟨before, own, replied⟩ :=
    m.run_replies md5 (fun state => m.OwnKeys md5 state.redis) calls state
      (fun before call _ => m.step_ownKeys md5 before call) start _ _ hit
  simp only [step, Prod.map_fst, Reply.entry.injEq] at replied
  obtain ⟨-, found, fresh⟩ := m.get_eq_ok md5 before replied
  obtain ⟨key, expiry⟩ := own _ _ found
  obtain ⟨sameTable, sameDigest⟩ := generateKey_inj md5 key
  subst sameTable
  exact ⟨rfl, sameDigest.symm, fresh, expiry⟩

/-! ## Invalidation -/

theorem invalidate_clears {state : State} {tableName : String}
    {keysError : Option String} {delReply : Outcome}
    (plain : ∀ c ∈ tableName.data, c ∉ globChars) (enabled : m.enabled = true)
    (cleared : (m.invalidate state tableName keysError delReply).1 = none) (query : String) :
    (m.invalidate state tableName keysError delReply).2.redis.get
      (generateKey md5 query tableName) = none := by
  have listed : ∀ entry, state.redis.get (generateKey md5 query tableName) = some entry →
      generateKey md5 query tableName ∈ state.redis.keys ("cache:table:" ++ tableName ++ ":*") :=
    fun _ found => Keyspace.mem_keys_of_get _ found (stringmatch_generateKey md5 plain query)
  have unlisted (none : ¬(state.redis.keys ("cache:table:" ++ tableName ++ ":*")).length > 0) :
      state.redis.get (generateKey md5 query tableName) = Option.none := by
    cases found : state.redis.get (generateKey md5 query tableName) with
    | none => rfl
    | some entry => exact absurd (List.length_pos_of_mem (listed entry found)) none
  cases keysError with
  | some err => simp [invalidate, enabled] at cleared
  | none =>
      cases delReply with
      | done =>
          simp only [invalidate, enabled, Bool.not_true, Bool.false_eq_true, if_false,
            Outcome.error?, write, Outcome.applied, if_true]
          split_ifs with some
          · rw [Keyspace.get_del]
            split_ifs with mem
            · rfl
            · cases found : state.redis.get (generateKey md5 query tableName) with
              | none => rfl
              | some entry => exact absurd (listed entry found) mem
          · exact unlisted some
      | failed err applied =>
          simp only [invalidate, enabled, Bool.not_true, Bool.false_eq_true, if_false,
            Outcome.error?] at cleared ⊢
          split_ifs at cleared ⊢ with some
          exact unlisted some

theorem step_cleared {state : State} {call : Call} {tableName : String}
    (notSet : ∀ query results now marshalError setReply,
      call ≠ .set query tableName results now marshalError setReply)
    (absent : ∀ query, state.redis.get (generateKey md5 query tableName) = none)
    (query : String) :
    (m.step md5 state call).2.redis.get (generateKey md5 query tableName) = none := by
  rcases m.step_get_key md5 state call (generateKey md5 query tableName) with
    same | gone | ⟨_, _, results, now, marshalError, setReply, rfl, mine, -⟩
  · rw [same, absent]
  · exact gone
  · obtain ⟨rfl, -⟩ := generateKey_inj md5 mine
    exact absurd rfl (notSet _ results now marshalError setReply)

/-- After `Invalidate` of a table, no `Get` of it hits until a `Set` of the table. -/
theorem invalidate_get (state : State) {tableName : String} {keysError : Option String}
    {delReply : Outcome} (plain : ∀ c ∈ tableName.data, c ∉ globChars)
    (cleared : (m.invalidate state tableName keysError delReply).1 = none)
    (calls : List (Call))
    (noSet : ∀ query results now marshalError setReply,
      Call.set query tableName results now marshalError setReply ∉ calls)
    (query : String) (now : Int) (getError : Option String) (getDel : Outcome)
    (entry : CacheEntry) :
    (Call.get query tableName now getError getDel, Reply.entry (.ok entry)) ∉
      (m.run md5 (m.invalidate state tableName keysError delReply).2 calls).1 := by
  intro hit
  obtain ⟨before, absent, replied⟩ :=
    m.run_replies md5
      (fun state => m.enabled = true →
        ∀ query, state.redis.get (generateKey md5 query tableName) = none)
      calls _
      (fun _ _ mem holds enabled => m.step_cleared md5
        (fun query results now marshalError setReply same =>
          noSet query results now marshalError setReply (same ▸ mem))
        (holds enabled))
      (fun enabled => m.invalidate_clears md5 plain enabled cleared) _ _ hit
  simp only [step, Prod.map_fst, Reply.entry.injEq] at replied
  obtain ⟨enabled, found, -⟩ := m.get_eq_ok md5 before replied
  rw [absent enabled] at found
  cases found

end Manager

/-! ## Serving what was stored -/

section Serving

variable (md5 : String → Digest)

/-- A call that neither drops nor replaces what is under `key` before `expiry`. -/
def Call.keeps (key : String) (expiry : Int) : Call → Prop
  | .get query tableName now _ _ => generateKey md5 query tableName = key → now ≤ expiry
  | .set query tableName _ _ _ _ => generateKey md5 query tableName ≠ key
  | .invalidate tableName _ _ => stringmatch ("cache:table:" ++ tableName ++ ":*") key = false
  | .invalidateAll _ => False
  | .evict evicted => evicted ≠ key

instance (key : String) (expiry : Int) :
    (call : Call) → Decidable (call.keeps md5 key expiry)
  | .get query tableName now _ _ =>
      inferInstanceAs (Decidable (generateKey md5 query tableName = key → now ≤ expiry))
  | .set query tableName _ _ _ _ =>
      inferInstanceAs (Decidable (generateKey md5 query tableName ≠ key))
  | .invalidate tableName _ _ =>
      inferInstanceAs (Decidable (stringmatch ("cache:table:" ++ tableName ++ ":*") key = false))
  | .invalidateAll _ => inferInstanceAs (Decidable False)
  | .evict evicted => inferInstanceAs (Decidable (evicted ≠ key))

theorem invalidationPattern_ne_star (tableName : String) :
    "cache:table:" ++ tableName ++ ":*" ≠ "*" := fun same => by
  have lengths := congrArg String.length same
  have fixed : "cache:table:".length = 12 ∧ ":*".length = 2 ∧ "*".length = 1 := by decide
  rw [String.length_append, String.length_append, fixed.1, fixed.2.1, fixed.2.2] at lengths
  omega

namespace Manager

variable (m : Manager)

theorem step_keeps {state : State} {call : Call} {key : String}
    {entry : CacheEntry} (kept : call.keeps md5 key entry.expiresAt)
    (found : state.redis.get key = some entry) :
    (m.step md5 state call).2.redis.get key = some entry := by
  cases call with
  | get query tableName now getError delReply =>
      simp only [step, Prod.map_snd, id_eq]
      rcases m.get_redis md5 state query tableName now getError delReply with
        same | ⟨stored, mine, expired, deleted⟩
      · rw [same, found]
      · by_cases own : generateKey md5 query tableName = key
        · rw [own, found] at mine
          cases mine
          exact absurd (kept own) (not_le.mpr expired)
        · rw [deleted, write]
          split_ifs <;> simp [Keyspace.get_del, found, Ne.symm own]
  | set query tableName results now marshalError setReply =>
      rcases m.set_get md5 state query tableName results now marshalError setReply key with
        same | ⟨mine, -⟩
      · exact same.trans found
      · exact absurd mine.symm kept
  | invalidate tableName keysError delReply =>
      have unmatched : stringmatch ("cache:table:" ++ tableName ++ ":*") key = false := kept
      have unlisted : key ∉ state.redis.keys ("cache:table:" ++ tableName ++ ":*") := by
        simp [Keyspace.keys, invalidationPattern_ne_star, unmatched]
      simp only [step, Prod.map_snd, id_eq]
      rcases m.invalidate_redis state tableName keysError delReply with same | deleted
      · rw [same, found]
      · rw [deleted, write]
        split_ifs <;> simp [Keyspace.get_del, found, unlisted]
  | invalidateAll _ => exact kept.elim
  | evict evicted => simp [step, Keyspace.get_del, found, Ne.symm kept]

theorem run_keeps_entry {key : String} {entry : CacheEntry} :
    ∀ (calls : List (Call)) (state : State),
      (∀ call ∈ calls, call.keeps md5 key entry.expiresAt) → state.redis.get key = some entry →
        (m.run md5 state calls).2.redis.get key = some entry
  | [], _, _, found => found
  | call :: rest, _, kept, found =>
      run_keeps_entry rest _ (fun later mem => kept later (List.mem_cons_of_mem _ mem))
        (m.step_keeps md5 (kept call (List.mem_cons_self _ _)) found)

/-- A `Get` by the expiry returns the decoded entry `Set` stored, if no call dropped its key. -/
theorem set_run_get (state : State) (query tableName : String) (results : Results)
    (now later : Int) (enabled : m.enabled = true)
    (cached : m.isTableCachingEnabled tableName = true) (calls : List (Call))
    (kept : ∀ call ∈ calls,
      call.keeps md5 (generateKey md5 query tableName) (now + m.getTTL tableName))
    (fresh : later ≤ now + m.getTTL tableName) (getDel : Outcome) :
    (m.get md5 (m.run md5 (m.set md5 state query tableName results now none .done).2 calls).2
        query tableName later none getDel).1 =
      .ok ⟨query, decodeResults results, now, now + m.getTTL tableName, tableName⟩ := by
  have stored : (m.set md5 state query tableName results now none .done).2.redis.get
      (generateKey md5 query tableName) =
        some ⟨query, decodeResults results, now, now + m.getTTL tableName, tableName⟩ := by
    simp [set, enabled, cached, write, Outcome.applied, Outcome.error?, Keyspace.get_set]
  have still := m.run_keeps_entry md5 calls _ kept stored
  simp [get, enabled, cached, still, not_lt.mpr fresh]

end Manager

end Serving

def lengthDigest (query : String) : Digest :=
  ⟨List.replicate 15 0 ++ [UInt8.ofNat query.length], by simp⟩

def ordersManager : Manager :=
  ⟨true, ⟨true, 60000000000, ⟨[("orders", ⟨true, 1000000000⟩)], by decide⟩⟩⟩

def emptyState : State :=
  ⟨⟨0, 0, 0, 0, 0⟩, []⟩

def ordersRows : Results :=
  [[("id", .int64 1), ("total_amount", .int64 9007199254740993),
    ("total_amount_idn", .bytes [0x39, 0x2e, 0x35])]]

example : decodeResults ordersRows =
    [[("id", .float64 1), ("total_amount", .float64 9007199254740992),
      ("total_amount_idn", .string "OS41")]] := by
  decide

def ordersRun : List Call :=
  [.set "SELECT * FROM orders" "orders" ordersRows 0 none .done,
    .get "SELECT * FROM orders" "orders" 500000000 none .done,
    .get "SELECT * FROM orders" "orders" 2000000000 none .done]

def ordersEntry : CacheEntry :=
  ⟨"SELECT * FROM orders", decodeResults ordersRows, 0, 1000000000, "orders"⟩

theorem run_get_hit_ordersRun :
    (Call.get "SELECT * FROM orders" "orders" 500000000 none .done, Reply.entry (.ok ordersEntry))
        ∈ (ordersManager.run lengthDigest emptyState ordersRun).1 ∧
      ordersEntry.tableName = "orders" ∧
      lengthDigest ordersEntry.query = lengthDigest "SELECT * FROM orders" ∧
      (500000000 : Int) ≤ ordersEntry.expiresAt ∧
      ordersEntry.expiresAt = ordersEntry.cachedAt + ordersManager.getTTL "orders" := by
  have hit : (Call.get "SELECT * FROM orders" "orders" 500000000 none .done,
      Reply.entry (.ok ordersEntry)) ∈ (ordersManager.run lengthDigest emptyState ordersRun).1 :=
    List.mem_cons_of_mem _ (List.mem_cons_self _ _)
  exact ⟨hit, ordersManager.run_get_hit lengthDigest emptyState ordersRun
    (ordersManager.ownKeys_nil lengthDigest) hit⟩

def ordersCached : State :=
  (ordersManager.set lengthDigest emptyState "SELECT * FROM orders" "orders" ordersRows 0 none
    .done).2

theorem invalidate_get_ordersCached :
    (ordersCached.redis.get (generateKey lengthDigest "SELECT * FROM orders" "orders")).isSome ∧
      (ordersManager.invalidate ordersCached "orders" none .done).1 = none ∧
      ∀ entry : CacheEntry,
        (Call.get "SELECT * FROM orders" "orders" 500000000 none .done, Reply.entry (.ok entry)) ∉
          (ordersManager.run lengthDigest
            (ordersManager.invalidate ordersCached "orders" none .done).2
            [.set "SELECT 1" "customers" [] 0 none .done,
              .get "SELECT * FROM orders" "orders" 500000000 none .done]).1 :=
  ⟨by decide, by decide, fun entry =>
    ordersManager.invalidate_get lengthDigest ordersCached (by decide) (by decide) _ (by simp)
      _ _ _ _ entry⟩

def ordersBetween : List Call :=
  [.set "SELECT 1" "customers" [] 0 none .done,
    .get "SELECT * FROM orders" "orders" 500000000 none .done,
    .invalidate "customers" none .done,
    .evict (generateKey lengthDigest "SELECT 1" "customers")]

theorem set_run_get_ordersBetween :
    (ordersManager.get lengthDigest
        (ordersManager.run lengthDigest
          (ordersManager.set lengthDigest emptyState "SELECT * FROM orders" "orders" ordersRows 0
            none .done).2
          ordersBetween).2
        "SELECT * FROM orders" "orders" 900000000 none .done).1 = .ok ordersEntry :=
  ordersManager.set_run_get lengthDigest emptyState "SELECT * FROM orders" "orders" ordersRows 0
    900000000
    rfl (by decide) ordersBetween (by decide) (by decide) .done

end TransisiDB.Cache
