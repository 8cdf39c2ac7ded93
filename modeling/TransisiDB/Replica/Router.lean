import Mathlib.Algebra.Group.Int
import Mathlib.Algebra.Group.Nat.Basic
import Mathlib.Data.List.Rotate

set_option autoImplicit false

/-!
# The replica router

`internal/replica/router.go` and the `HealthChecker` it starts.  A `*sql.DB` is named by its
place: the primary, or the replica at its index in `cfg.Replicas`.  `getReadConnection` holds
`r.mu` and reads the health checker once, through `GetHealthyReplicas` under `hc.mu`, so a
read and a health check each take effect at one point, and a run is a sequence of `Event`s.
`replicaIndex` is a Go `int`: `r.replicaIndex++` wraps at `2 ^ 63`, and `%` truncates
towards zero.

* `Router.checkAllReplicas_getReadConnection`: after a health check, a read goes to a replica
  whose ping succeeded, and to the primary exactly when none did.
* `Router.run_reads_rotate`: from a counter that has not wrapped, as many reads as there are
  healthy replicas return each healthy replica once, in the order of the health checker
  rotated by the counter.
* `Router.read_panics_after_counter_wraps`: a router of `k` replicas, `k` no power of two,
  panics on the read after its counter has wrapped.
-/

namespace TransisiDB.Replica

/-- A `*sql.DB` of the router. -/
inductive Backend where
  | primary
  | replica (index : Nat)
  deriving DecidableEq, Repr

/-- `HealthChecker`, its replicas given by their number. -/
structure HealthChecker where
  replicaCount : Nat
  healthStatus : List Bool
  sameLength : healthStatus.length = replicaCount

namespace HealthChecker

/-- `NewRouter`: a `nil` configuration is refused, and the strategy defaults to `ROUND_ROBIN`. -/
def new (replicaCount : Nat) : HealthChecker :=
  ⟨replicaCount, List.replicate replicaCount true, List.length_replicate _ _⟩

variable (hc : HealthChecker)

/-- `checkAllReplicas`, where `ping i` tells whether replica `i` answered its ping. -/
def checkAllReplicas (ping : Nat → Bool) : HealthChecker :=
  ⟨hc.replicaCount, (List.range hc.replicaCount).map ping, by simp⟩

/-- `GetHealthyReplicas`: the healthy replicas, in their order. -/
def getHealthyReplicas : List Backend :=
  hc.healthStatus.enum.filterMap fun (i, isHealthy) => if isHealthy then some (.replica i) else none

theorem mem_getHealthyReplicas {backend : Backend} :
    backend ∈ hc.getHealthyReplicas ↔
      ∃ i, backend = .replica i ∧ hc.healthStatus[i]? = some true := by
  simp only [getHealthyReplicas, List.mem_filterMap, Prod.exists, List.mk_mem_enum_iff_getElem?]
  constructor
  · rintro ⟨i, isHealthy, found, selected⟩
    cases isHealthy
    · cases selected
    · exact ⟨i, (Option.some.inj selected).symm, found⟩
  · rintro ⟨i, rfl, found⟩
    exact ⟨i, true, found, rfl⟩

theorem getHealthyReplicas_eq_nil_iff :
    hc.getHealthyReplicas = [] ↔ ∀ i < hc.replicaCount, hc.healthStatus[i]? = some false := by
  rw [List.eq_nil_iff_forall_not_mem]
  simp only [mem_getHealthyReplicas, not_exists, not_and]
  constructor
  · intro none i bound
    have inRange : i < hc.healthStatus.length := hc.sameLength ▸ bound
    rw [List.getElem?_eq_getElem inRange]
    cases unhealthy : hc.healthStatus[i]
    · rfl
    · exact absurd (by rw [List.getElem?_eq_getElem inRange, unhealthy]) (none (.replica i) i rfl)
  · rintro allFalse backend i rfl found
    have bound : i < hc.replicaCount := hc.sameLength ▸ (List.getElem?_eq_some_iff.mp found).1
    rw [allFalse i bound] at found
    cases found

theorem new_getHealthyReplicas (replicaCount : Nat) :
    (new replicaCount).getHealthyReplicas = (List.range replicaCount).map .replica := by
  have allHealthy : ∀ entry ∈ (List.replicate replicaCount true).enum,
      (if entry.2 then some (Backend.replica entry.1) else none) = some (.replica entry.1) :=
    fun entry member => by simp [List.eq_of_mem_replicate (List.snd_mem_of_mem_enum member)]
  simp only [getHealthyReplicas, new]
  rw [List.filterMap_congr allHealthy, ← Function.comp_def, List.filterMap_eq_map]
  apply List.ext_getElem (by simp)
  intro i inEnum inRange
  simp

@[simp]
theorem checkAllReplicas_replicaCount (ping : Nat → Bool) :
    (hc.checkAllReplicas ping).replicaCount = hc.replicaCount := rfl

theorem checkAllReplicas_healthStatus (ping : Nat → Bool) (i : Nat) :
    (hc.checkAllReplicas ping).healthStatus[i]? =
      if i < hc.replicaCount then some (ping i) else none := by
  simp only [checkAllReplicas, List.getElem?_map]
  split
  · rename_i bound
    rw [List.getElem?_range bound]
    rfl
  · rename_i outside
    rw [List.getElem?_eq_none (by simpa using outside)]
    rfl

end HealthChecker

def queryTypeRead : Int := 0

def queryTypeWrite : Int := 1

/-- A run-time panic of an index expression: `healthyReplicas[index]` out of range. -/
structure IndexOutOfRange where
  index : Int
  length : Nat
  deriving DecidableEq, Repr

/-- `xs[i]` for a Go `int` index. -/
def goIndex {α : Type} (xs : List α) (i : Int) : Except IndexOutOfRange α :=
  if 0 ≤ i then
    match xs[i.toNat]? with
    | some x => .ok x
    | none => .error ⟨i, xs.length⟩
  else .error ⟨i, xs.length⟩

theorem goIndex_natCast {α : Type} {xs : List α} {i : Nat} (inRange : i < xs.length) :
    goIndex xs i = .ok xs[i] := by
  simp [goIndex, List.getElem?_eq_getElem inRange, Int.natCast_nonneg]

theorem goIndex_of_neg {α : Type} (xs : List α) {i : Int} (negative : i < 0) :
    goIndex xs i = .error ⟨i, xs.length⟩ := by
  simp [goIndex, Int.not_le.mpr negative]

/-- `x + 1` of a Go `int`, which wraps from `2 ^ 63 - 1` to `-2 ^ 63`. -/
def wrapInt64 (x : Int) : Int :=
  Int.bmod x (2 ^ 64)

theorem wrapInt64_of_lt {x : Int} (nonneg : 0 ≤ x) (small : x < 2 ^ 63) : wrapInt64 x = x := by
  have below : ((2 ^ 64 : Nat) : Int) = 2 ^ 64 := rfl
  rw [wrapInt64, Int.bmod_pos _ _ (by rw [below]; omega), below,
    Int.emod_eq_of_lt nonneg (by omega)]

/-- `replica.Config`, as far as the router reads it. -/
structure Config where
  replicaCount : Nat
  strategy : String

/-- `Router`.  Its replicas are the health checker's, and its counter an `int`. -/
structure Router where
  replicaCount : Nat
  replicaIndex : Int
  strategy : String
  healthChecker : HealthChecker
  sameReplicas : healthChecker.replicaCount = replicaCount
  indexRange : -2 ^ 63 ≤ replicaIndex ∧ replicaIndex < 2 ^ 63

namespace Router

/-- `NewRouter`: a `nil` configuration is refused, and the strategy defaults to `ROUND_ROBIN`. -/
def new : Option Config → Except String Router
  | none => .error "config cannot be nil"
  | some cfg => .ok
      ⟨cfg.replicaCount, 0, if cfg.strategy = "" then "ROUND_ROBIN" else cfg.strategy,
        HealthChecker.new cfg.replicaCount, rfl, by decide⟩

variable (r : Router)

/-- `r.replicaIndex++`. -/
def advance : Router :=
  { r with
    replicaIndex := wrapInt64 (r.replicaIndex + 1)
    indexRange := ⟨Int.le_bmod (by decide), Int.lt_of_lt_of_le (Int.bmod_lt (by decide))
      (by decide)⟩ }

/-- `healthyReplicas[r.replicaIndex % len(healthyReplicas)]`, then `r.replicaIndex++`. -/
def roundRobin (healthyReplicas : List Backend) : Except IndexOutOfRange (Backend × Router) :=
  (goIndex healthyReplicas (r.replicaIndex.tmod healthyReplicas.length)).map
    fun replica => (replica, r.advance)

/-- `getReadConnection`, with `now` the `time.Now().UnixNano()` the `RANDOM` case reads. -/
def getReadConnection (now : Int) : Except IndexOutOfRange (Backend × Router) :=
  if r.replicaCount = 0 then .ok (.primary, r)
  else
    let healthyReplicas := r.healthChecker.getHealthyReplicas
    if healthyReplicas.length = 0 then .ok (.primary, r)
    else
      match r.strategy with
      | "ROUND_ROBIN" => r.roundRobin healthyReplicas
      | "RANDOM" =>
          (goIndex healthyReplicas (now.tmod healthyReplicas.length)).map fun replica =>
            (replica, r)
      | "LEAST_CONNECTIONS" => r.roundRobin healthyReplicas
      | _ => r.roundRobin healthyReplicas

/-- `GetConnection`: its result and the router after it; the outer error is a panic. -/
def getConnection (queryType now : Int) :
    Except IndexOutOfRange (Except String Backend × Router) :=
  if queryType = queryTypeWrite then .ok (.ok .primary, r)
  else if queryType = queryTypeRead then
    (r.getReadConnection now).map fun (backend, next) => (.ok backend, next)
  else .ok (.error ("unknown query type: " ++ toString queryType), r)

/-- `checkAllReplicas`, where `ping i` tells whether replica `i` answered its ping. -/
def checkAllReplicas (ping : Nat → Bool) : Router :=
  { r with
    healthChecker := r.healthChecker.checkAllReplicas ping
    sameReplicas := r.sameReplicas }

/-- What happens to the router: a call of `GetConnection`, or a tick of the health checker. -/
inductive Event where
  | getConnection (queryType now : Int)
  | checkAllReplicas (ping : Nat → Bool)

/-- One event, with the answer of a call. -/
def step : Event → Except IndexOutOfRange (Option (Except String Backend) × Router)
  | .getConnection queryType now =>
      (r.getConnection queryType now).map fun (answer, next) => (some answer, next)
  | .checkAllReplicas ping => .ok (none, r.checkAllReplicas ping)

/-- A run: the answers of the calls in their order, until a panic. -/
def run : Router → List Event → Except IndexOutOfRange (List (Except String Backend) × Router)
  | r, [] => .ok ([], r)
  | r, event :: rest =>
      match r.step event with
      | .error panic => .error panic
      | .ok (answer, next) =>
          (next.run rest).map fun (answers, final) => (answer.toList ++ answers, final)

/-! ## One read -/

theorem mem_of_goIndex {α : Type} {xs : List α} {i : Int} {x : α} (found : goIndex xs i = .ok x) :
    x ∈ xs := by
  unfold goIndex at found
  split_ifs at found
  split at found
  · rename_i found'
    cases found
    exact List.getElem?_mem found'
  · cases found

theorem getHealthyReplicas_of_replicaCount (none : r.replicaCount = 0) :
    r.healthChecker.getHealthyReplicas = [] := by
  have empty : r.healthChecker.healthStatus = [] :=
    List.eq_nil_of_length_eq_zero (r.healthChecker.sameLength.trans (r.sameReplicas.trans none))
  simp [HealthChecker.getHealthyReplicas, empty]

theorem getReadConnection_cases {now : Int} {backend : Backend} {next : Router}
    (read : r.getReadConnection now = .ok (backend, next)) :
    r.healthChecker.getHealthyReplicas = [] ∧ backend = .primary ∨
      backend ∈ r.healthChecker.getHealthyReplicas := by
  have selected : ∀ {i : Int} {advanced : Router},
      (goIndex r.healthChecker.getHealthyReplicas i).map (fun replica => (replica, advanced)) =
        .ok (backend, next) → backend ∈ r.healthChecker.getHealthyReplicas := fun chosen => by
    revert chosen
    cases found : goIndex r.healthChecker.getHealthyReplicas _ with
    | error => simp [Except.map]
    | ok replica =>
        simp only [Except.map, Except.ok.injEq, Prod.mk.injEq, and_imp]
        rintro rfl -
        exact mem_of_goIndex found
  unfold getReadConnection roundRobin at read
  by_cases none : r.replicaCount = 0
  · simp only [none, if_true, Except.ok.injEq, Prod.mk.injEq] at read
    exact .inl ⟨getHealthyReplicas_of_replicaCount r none, read.1.symm⟩
  by_cases empty : r.healthChecker.getHealthyReplicas.length = 0
  · simp only [none, empty, if_true, if_false, Except.ok.injEq, Prod.mk.injEq] at read
    exact .inl ⟨List.eq_nil_of_length_eq_zero empty, read.1.symm⟩
  simp only [none, empty, if_false] at read
  split at read <;> exact .inr (selected read)

theorem primary_not_mem_getHealthyReplicas : Backend.primary ∉ r.healthChecker.getHealthyReplicas :=
  fun member => by
    obtain ⟨i, isReplica, -⟩ := (HealthChecker.mem_getHealthyReplicas _).mp member
    cases isReplica

theorem checkAllReplicas_read_selects (ping : Nat → Bool) (now : Int) {backend : Backend}
    {next : Router}
    (read : (r.checkAllReplicas ping).getReadConnection now = .ok (backend, next)) :
    (backend = .primary ↔ ∀ i < r.replicaCount, ping i = false) ∧
      ∀ i, backend = .replica i → i < r.replicaCount ∧ ping i = true := by
  have noneHealthy : (r.checkAllReplicas ping).healthChecker.getHealthyReplicas = [] ↔
      ∀ i < r.replicaCount, ping i = false := by
    rw [HealthChecker.getHealthyReplicas_eq_nil_iff]
    simp only [checkAllReplicas, HealthChecker.checkAllReplicas_replicaCount,
      HealthChecker.checkAllReplicas_healthStatus, r.sameReplicas]
    exact forall₂_congr fun i bound => by simp [bound]
  have healthy : ∀ i,
      Backend.replica i ∈ (r.checkAllReplicas ping).healthChecker.getHealthyReplicas ↔
        i < r.replicaCount ∧ ping i = true := fun i => by
    rw [HealthChecker.mem_getHealthyReplicas]
    simp only [checkAllReplicas, HealthChecker.checkAllReplicas_healthStatus, r.sameReplicas,
      Backend.replica.injEq, exists_eq_left']
    split <;> simp_all
  rcases getReadConnection_cases _ read with ⟨none, rfl⟩ | member
  · exact ⟨⟨fun _ => noneHealthy.mp none, fun _ => rfl⟩, fun i isReplica => by cases isReplica⟩
  · refine ⟨⟨fun isPrimary => ?_, fun allFailed => ?_⟩,
      fun i isReplica => (healthy i).mp (isReplica ▸ member)⟩
    · exact absurd (isPrimary ▸ member) (primary_not_mem_getHealthyReplicas _)
    · rw [noneHealthy.mpr allFailed] at member
      cases member

theorem roundRobin_of_nonneg {healthyReplicas : List Backend} (start : 0 ≤ r.replicaIndex)
    (positive : 0 < healthyReplicas.length) :
    r.roundRobin healthyReplicas =
      .ok (healthyReplicas.getD (r.replicaIndex.toNat % healthyReplicas.length) .primary,
        r.advance) := by
  have index : r.replicaIndex.tmod healthyReplicas.length =
      ((r.replicaIndex.toNat % healthyReplicas.length : Nat) : Int) := by
    rw [Int.ofNat_tmod, Int.toNat_of_nonneg start]
  have inRange := Nat.mod_lt r.replicaIndex.toNat positive
  rw [roundRobin, index, goIndex_natCast inRange, List.getD_eq_getElem?_getD,
    List.getElem?_eq_getElem inRange]
  rfl

theorem getReadConnection_ok (now : Int) (start : 0 ≤ r.replicaIndex) (nowNonneg : 0 ≤ now) :
    ∃ backend next, r.getReadConnection now = .ok (backend, next) := by
  unfold getReadConnection
  dsimp only
  split_ifs with none empty
  · exact ⟨_, _, rfl⟩
  · exact ⟨_, _, rfl⟩
  have positive := Nat.pos_of_ne_zero empty
  have rotates := r.roundRobin_of_nonneg start positive
  have index : now.tmod r.healthChecker.getHealthyReplicas.length =
      ((now.toNat % r.healthChecker.getHealthyReplicas.length : Nat) : Int) := by
    rw [Int.ofNat_tmod, Int.toNat_of_nonneg nowNonneg]
  split
  · exact ⟨_, _, rotates⟩
  · rw [index, goIndex_natCast (Nat.mod_lt _ positive)]
    exact ⟨_, _, rfl⟩
  · exact ⟨_, _, rotates⟩
  · exact ⟨_, _, rotates⟩

/-- After a health check a read goes to a replica whose ping succeeded, else the primary. -/
theorem checkAllReplicas_getReadConnection (ping : Nat → Bool) (now : Int)
    (start : 0 ≤ r.replicaIndex) (nowNonneg : 0 ≤ now) :
    ∃ backend next, (r.checkAllReplicas ping).getReadConnection now = .ok (backend, next) ∧
      (backend = .primary ↔ ∀ i < r.replicaCount, ping i = false) ∧
      ∀ i, backend = .replica i → i < r.replicaCount ∧ ping i = true :=
  let ⟨backend, next, read⟩ := (r.checkAllReplicas ping).getReadConnection_ok now start nowNonneg
  ⟨backend, next, read, r.checkAllReplicas_read_selects ping now read⟩

def roundRobinTestRouter : Router :=
  ⟨2, 0, "ROUND_ROBIN", HealthChecker.new 2, rfl, by decide⟩

theorem checkAllReplicas_getReadConnection_second :
    0 ≤ roundRobinTestRouter.replicaIndex ∧ (0 : Int) ≤ 0 ∧
      ∃ backend next, (roundRobinTestRouter.checkAllReplicas fun i => i == 1).getReadConnection 0 =
          .ok (backend, next) ∧
        (backend = .primary ↔ ∀ i < 2, (i == 1) = false) ∧
        ∀ i, backend = .replica i → i < 2 ∧ (i == 1) = true :=
  ⟨by decide, le_refl 0, checkAllReplicas_getReadConnection _ _ 0 (by decide) (le_refl 0)⟩

/-! ## Runs of reads -/

@[simp]
theorem advance_healthChecker : r.advance.healthChecker = r.healthChecker := rfl

@[simp]
theorem advance_strategy : r.advance.strategy = r.strategy := rfl

@[simp]
theorem advance_replicaCount : r.advance.replicaCount = r.replicaCount := rfl

theorem advance_replicaIndex (start : 0 ≤ r.replicaIndex) (noWrap : r.replicaIndex + 1 < 2 ^ 63) :
    r.advance.replicaIndex = r.replicaIndex + 1 :=
  wrapInt64_of_lt (by omega) noWrap

theorem step_read (now : Int) :
    r.step (.getConnection queryTypeRead now) =
      (r.getReadConnection now).map fun (backend, next) => (some (.ok backend), next) := by
  simp only [step, getConnection, queryTypeRead, queryTypeWrite]
  cases r.getReadConnection now <;> rfl

theorem getReadConnection_eq_roundRobin (now : Int) (notRandom : r.strategy ≠ "RANDOM")
    (positive : 0 < r.healthChecker.getHealthyReplicas.length) :
    r.getReadConnection now = r.roundRobin r.healthChecker.getHealthyReplicas := by
  have count : r.replicaCount ≠ 0 := fun none => by
    rw [getHealthyReplicas_of_replicaCount r none] at positive
    cases positive
  unfold getReadConnection
  simp only [count, Nat.pos_iff_ne_zero.mp positive, if_false]
  split
  · rfl
  · contradiction
  · rfl
  · rfl

theorem run_reads (now : Int) (notRandom : r.strategy ≠ "RANDOM")
    (positive : 0 < r.healthChecker.getHealthyReplicas.length) (m : Nat)
    (start : 0 ≤ r.replicaIndex) (noWrap : r.replicaIndex + m < 2 ^ 63) (more : List Event) :
    ∃ next : Router, next.replicaIndex = r.replicaIndex + m ∧
      next.healthChecker = r.healthChecker ∧ next.strategy = r.strategy ∧
      r.run (List.replicate m (.getConnection queryTypeRead now) ++ more) =
        (next.run more).map fun (later, final) =>
          ((List.range m).map (fun j => .ok (r.healthChecker.getHealthyReplicas.getD
            ((r.replicaIndex.toNat + j) % r.healthChecker.getHealthyReplicas.length) .primary)) ++
            later, final) := by
  induction m generalizing r with
  | zero =>
      refine ⟨r, by simp, rfl, rfl, ?_⟩
      show r.run more = (r.run more).map _
      cases ranMore : r.run more <;> rfl
  | succ m inductionHypothesis =>
      obtain ⟨next, counter, sameHealth, sameStrategy, ran⟩ :=
        inductionHypothesis r.advance notRandom positive
          (by rw [r.advance_replicaIndex start (by omega)]; omega)
          (by rw [r.advance_replicaIndex start (by omega)]; omega)
      refine ⟨next, by rw [counter, r.advance_replicaIndex start (by omega)]; omega,
        sameHealth, sameStrategy, ?_⟩
      have read : r.step (.getConnection queryTypeRead now) =
          .ok (some (.ok (r.healthChecker.getHealthyReplicas.getD
            (r.replicaIndex.toNat % r.healthChecker.getHealthyReplicas.length) .primary)),
            r.advance) := by
        rw [step_read, getReadConnection_eq_roundRobin r now notRandom positive,
          roundRobin_of_nonneg r start positive]
        rfl
      have shifted : r.advance.replicaIndex.toNat = r.replicaIndex.toNat + 1 := by
        rw [r.advance_replicaIndex start (by omega)]
        omega
      have answers : (List.range (m + 1)).map (fun j => (Except.ok (ε := String)
            (r.healthChecker.getHealthyReplicas.getD
              ((r.replicaIndex.toNat + j) % r.healthChecker.getHealthyReplicas.length) .primary))) =
          .ok (r.healthChecker.getHealthyReplicas.getD
            (r.replicaIndex.toNat % r.healthChecker.getHealthyReplicas.length) .primary) ::
          (List.range m).map (fun j => Except.ok (r.healthChecker.getHealthyReplicas.getD
            ((r.replicaIndex.toNat + 1 + j) % r.healthChecker.getHealthyReplicas.length) .primary)) := by
        rw [List.range_succ_eq_map, List.map_cons, List.map_map]
        congr 2
        funext j
        simp only [Function.comp_apply, Nat.succ_eq_add_one, Nat.add_assoc, Nat.add_comm 1 j]
      rw [List.replicate_succ, List.cons_append, run, read, answers]
      simp only [ran, advance_healthChecker, shifted]
      cases ranMore : next.run more <;> simp [ranMore, Except.map]

/-- Reads with no health check between them visit each healthy replica once, in turn. -/
theorem run_reads_rotate (now : Int) (notRandom : r.strategy ≠ "RANDOM")
    (start : 0 ≤ r.replicaIndex)
    (noWrap : r.replicaIndex + r.healthChecker.getHealthyReplicas.length < 2 ^ 63) :
    ∃ final, r.run (List.replicate r.healthChecker.getHealthyReplicas.length
        (.getConnection queryTypeRead now)) =
      .ok ((r.healthChecker.getHealthyReplicas.rotate r.replicaIndex.toNat).map .ok, final) := by
  rcases Nat.eq_zero_or_pos r.healthChecker.getHealthyReplicas.length with empty | positive
  · refine ⟨r, ?_⟩
    rw [empty, List.eq_nil_of_length_eq_zero empty]
    rfl
  · obtain ⟨next, -, -, -, ran⟩ := run_reads r now notRandom positive _ start noWrap []
    have rotated : (List.range r.healthChecker.getHealthyReplicas.length).map (fun j =>
        (Except.ok (ε := String) (r.healthChecker.getHealthyReplicas.getD
          ((r.replicaIndex.toNat + j) % r.healthChecker.getHealthyReplicas.length) .primary))) =
        (r.healthChecker.getHealthyReplicas.rotate r.replicaIndex.toNat).map .ok := by
      apply List.ext_getElem (by simp)
      intro j inRange _
      simp only [List.getElem_map, List.getElem_range, List.getElem_rotate,
        List.getD_eq_getElem?_getD, Nat.add_comm j, List.getElem?_eq_getElem
          (Nat.mod_lt _ positive), Option.getD_some]
    rw [List.append_nil] at ran
    refine ⟨next, ?_⟩
    rw [ran, ← rotated]
    simp only [run, Except.map, List.append_nil]

theorem run_reads_rotate_test :
    ∃ final, roundRobinTestRouter.run (List.replicate 2 (.getConnection queryTypeRead 0)) =
      .ok ([.ok (.replica 0), .ok (.replica 1)], final) :=
  run_reads_rotate roundRobinTestRouter 0 (by decide) (by decide) (by decide)

theorem tmod_neg_natCast (n k : Nat) : Int.tmod (-(n : Int)) k = -((n % k : Nat) : Int) := by
  cases n with
  | zero => simp
  | succ n => rfl

theorem roundRobin_of_wrapped {healthyReplicas : List Backend}
    (wrapped : r.replicaIndex = -((2 ^ 63 : Nat) : Int))
    (notPowerOfTwo : 2 ^ 63 % healthyReplicas.length ≠ 0) :
    r.roundRobin healthyReplicas =
      .error ⟨-((2 ^ 63 % healthyReplicas.length : Nat) : Int), healthyReplicas.length⟩ := by
  rw [roundRobin, wrapped, tmod_neg_natCast, goIndex_of_neg _ (by omega)]
  rfl

/-- After `2 ^ 63` reads the counter wraps, and the next read panics. -/
theorem read_panics_after_counter_wraps (cfg : Config) (now : Int)
    (positive : 0 < cfg.replicaCount) (notRandom : cfg.strategy ≠ "RANDOM")
    (notPowerOfTwo : 2 ^ 63 % cfg.replicaCount ≠ 0) :
    ∃ router, new (some cfg) = .ok router ∧
      router.run (List.replicate (2 ^ 63 + 1) (.getConnection queryTypeRead now)) =
        .error ⟨-((2 ^ 63 % cfg.replicaCount : Nat) : Int), cfg.replicaCount⟩ := by
  let router : Router := ⟨cfg.replicaCount, 0,
    if cfg.strategy = "" then "ROUND_ROBIN" else cfg.strategy, HealthChecker.new cfg.replicaCount,
    rfl, by decide⟩
  refine ⟨router, rfl, ?_⟩
  have healthy : (HealthChecker.new cfg.replicaCount).getHealthyReplicas.length =
      cfg.replicaCount := by
    simp [HealthChecker.new_getHealthyReplicas]
  have strategy : (if cfg.strategy = "" then "ROUND_ROBIN" else cfg.strategy) ≠ "RANDOM" := by
    split
    · decide
    · exact notRandom
  rw [show 2 ^ 63 + 1 = (2 ^ 63 - 1) + 2 from rfl, List.replicate_add]
  obtain ⟨next, counter, sameHealth, sameStrategy, ran⟩ :=
    run_reads router now strategy (healthy ▸ positive) (2 ^ 63 - 1) (Int.le_refl 0)
      (show (0 : Int) + ((2 ^ 63 - 1 : Nat) : Int) < 2 ^ 63 by decide)
      (List.replicate 2 (.getConnection queryTypeRead now))
  rw [ran]
  have nextHealthy : next.healthChecker.getHealthyReplicas.length = cfg.replicaCount := by
    rw [sameHealth, healthy]
  have nextStrategy : next.strategy ≠ "RANDOM" := sameStrategy ▸ strategy
  have wrapped : next.advance.replicaIndex = -((2 ^ 63 : Nat) : Int) := by
    simp only [advance, counter]
    rfl
  have second : next.advance.step (.getConnection queryTypeRead now) =
      .error ⟨-((2 ^ 63 % cfg.replicaCount : Nat) : Int), cfg.replicaCount⟩ := by
    have advancedHealthy :
        next.advance.healthChecker.getHealthyReplicas.length = cfg.replicaCount := nextHealthy
    rw [step_read, getReadConnection_eq_roundRobin next.advance now nextStrategy
      (advancedHealthy ▸ positive), roundRobin_of_wrapped _ wrapped
      (advancedHealthy ▸ notPowerOfTwo), advancedHealthy]
    rfl
  have first : next.step (.getConnection queryTypeRead now) =
      .ok (some (.ok (next.healthChecker.getHealthyReplicas.getD
        (next.replicaIndex.toNat % next.healthChecker.getHealthyReplicas.length) .primary)),
        next.advance) := by
    rw [step_read, getReadConnection_eq_roundRobin next now nextStrategy (nextHealthy ▸ positive),
      roundRobin_of_nonneg next (counter ▸ Int.add_nonneg (Int.le_refl 0) (Int.ofNat_nonneg _))
        (nextHealthy ▸ positive)]
    rfl
  simp [run, first, second, Except.map]

theorem read_panics_after_counter_wraps_three :
    ∃ router, new (some ⟨3, ""⟩) = .ok router ∧
      router.run (List.replicate (2 ^ 63 + 1) (.getConnection queryTypeRead 0)) =
        .error ⟨-((2 ^ 63 % 3 : Nat) : Int), 3⟩ :=
  read_panics_after_counter_wraps ⟨3, ""⟩ 0 (by decide) (by decide) (by decide)

end Router

end TransisiDB.Replica
