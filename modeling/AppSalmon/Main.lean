import AppSalmon.Http.ClusterInfo
import AppSalmon.Http.Handlers
import AppSalmon.Service.Tasks

/-! What `main::run` makes of the configured times, and where they are used.

The configuration has them as integers, of two widths and both signs. Each of
them ends in an addition or a constructor that panics beyond some bound.
-/

set_option autoImplicit false

namespace AppSalmon

/-! ## What is built -/

/-- `i64::try_from(seconds).unwrap_or(i64::MAX)` -/
def i64OrMax (seconds : UInt64) : Int64 := if seconds.toNat < 2 ^ 63 then .ofNat seconds.toNat else .maxValue

/-- The times that a running process goes by. -/
structure Timing where
  limits : Limits
  spawnEstimate : TimeDelta
  reaperInterval : Duration
  failedGracePeriod : TimeDelta
  healthCheckTimeout : Duration

/-- Empty where `TimeDelta::seconds` panics. -/
def LimitsConfig.timing (limits : LimitsConfig) : Option Timing := do
  let healthCheckTimeout := Duration.fromSecs limits.healthCheckTimeoutSecs
  let minTtl ← TimeDelta.trySeconds limits.minTtlSecs
  let maxTtl ← TimeDelta.trySeconds limits.maxTtlSecs
  let spawnEstimate ← TimeDelta.trySeconds (i64OrMax limits.spawnEstimateSecs)
  let reaperInterval := Duration.fromSecs limits.ttlReaperIntervalSecs
  let failedGracePeriod ← TimeDelta.trySeconds (i64OrMax limits.failedClusterReapDelaySecs)
  return ⟨⟨minTtl, maxTtl, limits.maxClustersPerUser⟩, spawnEstimate, reaperInterval, failedGracePeriod,
    healthCheckTimeout⟩

structure Ticker where
  period : Duration

/-- `tokio::time::interval`, which panics over a period of zero. -/
def interval (period : Duration) : Option Ticker := if period.nanos = 0 then none else some ⟨period⟩

/-- The first line of `wait_until_healthy`. -/
def healthDeadline (now : Instant) (timeout : Duration) : Option Instant := now.add? timeout

/-! ## Clock readings -/

/-- One reading of either clock. -/
structure Present where
  wall : DateTime
  monotonic : Instant

/-- A hundred years of 365.25 days, in nanoseconds. -/
def century : Int := 36525 * 86400 * 1000000000

namespace Present

variable (present : Present)

/-- Within a century of the present. -/
def Near (time : DateTime) : Prop :=
  present.wall.nanos - century ≤ time.nanos ∧ time.nanos ≤ present.wall.nanos + century

def NearMonotonic (instant : Instant) : Prop :=
  present.monotonic.nanos - century ≤ instant.nanos ∧ instant.nanos ≤ present.monotonic.nanos + century

/-- The last reading within a century of the present. -/
def latest : Int := min (present.wall.nanos + century) maxInstant

def latestMonotonic : Int := min (present.monotonic.nanos + century) maxMonotonic

variable {present}

theorem Near.le_latest {time : DateTime} (near : present.Near time) : time.nanos ≤ present.latest :=
  Int.le_min.mpr ⟨near.2, time.before_last⟩

theorem NearMonotonic.le_latest {instant : Instant} (near : present.NearMonotonic instant) :
    instant.nanos ≤ present.latestMonotonic :=
  Int.le_min.mpr ⟨near.2, instant.before_last⟩

variable (present)

theorem exists_latest : ∃ time : DateTime, present.Near time ∧ time.nanos = present.latest := by
  have after_first := present.wall.after_first
  have before_last := present.wall.before_last
  have bounds : minInstant ≤ present.latest ∧ present.latest ≤ maxInstant := by
    simp only [latest, century, minInstant, maxInstant] at *
    omega
  refine ⟨⟨present.latest, bounds.1, bounds.2⟩, ?_, rfl⟩
  simp only [Near, latest, century, minInstant, maxInstant] at *
  omega

theorem exists_latestMonotonic : ∃ instant : Instant, present.NearMonotonic instant ∧
    instant.nanos = present.latestMonotonic := by
  have after_first := present.monotonic.after_first
  have before_last := present.monotonic.before_last
  have bounds : -2 ^ 63 * 1000000000 ≤ present.latestMonotonic ∧ present.latestMonotonic ≤ maxMonotonic := by
    simp only [latestMonotonic, century, maxMonotonic] at *
    omega
  refine ⟨⟨present.latestMonotonic, bounds.1, bounds.2⟩, ?_, rfl⟩
  simp only [NearMonotonic, latestMonotonic, century, maxMonotonic] at *
  omega

end Present

/-! ## Where a configured time is added -/

/-- A TTL that `create` accepts. -/
def Limits.Accepts (limits : Limits) (ttl : TimeDelta) : Prop :=
  ∃ rows fault cluster made next, cluster.requestedTtl = ttl ∧
    ClusterService.create limits rows fault cluster = (.ok made, next)

/-- None of these panics, whatever the clocks show within a century of the present. -/
structure Timing.Safe (present : Present) (timing : Timing) : Prop where
  create : ∀ (deps : TaskDeps) (projectTar : Option (List UInt8)) (cluster : Cluster),
    deps.spawnEstimate = timing.spawnEstimate → present.Near cluster.requestedAt →
    Handlers.launch deps projectTar (.ok cluster) ≠ .panicked
  info : ∀ (cluster : Cluster) (startedAt : DateTime), cluster.state = .spawning startedAt → present.Near startedAt →
    (Http.infoResponse cluster timing.spawnEstimate).isSome = true
  ready : ∀ (ttlSecs : Int64) (ttl : TimeDelta) (connection : ConnectionInfo) (readyAt : DateTime),
    TimeDelta.trySeconds ttlSecs = some ttl → timing.limits.Accepts ttl → present.Near readyAt →
    (SpawnTask.outcomeEvent readyAt ttl (.ok connection)).isSome = true
  reaped : ∀ (failedAt now : DateTime) (errorSummary : String), present.Near failedAt → present.Near now →
    (TtlReaper.dueForReaping (.failed failedAt errorSummary) now timing.failedGracePeriod).isSome = true
  reaper : (interval timing.reaperInterval).isSome = true
  health : ∀ now : Instant, present.NearMonotonic now → (healthDeadline now timing.healthCheckTimeout).isSome = true

/-- `main::run` builds its times, and none of them makes anything panic. -/
def LimitsConfig.Safe (present : Present) (limits : LimitsConfig) : Prop :=
  ∃ timing, limits.timing = some timing ∧ timing.Safe present

/-- Every configured time can be added to the latest reading, and the reaper's interval is not zero. -/
structure LimitsConfig.InRange (present : Present) (limits : LimitsConfig) : Prop where
  ttl : present.latest + limits.maxTtlSecs.toInt * 1000000000 ≤ maxInstant
  estimate : present.latest + limits.spawnEstimateSecs.toNat * 1000000000 ≤ maxInstant
  reapDelay : present.latest + limits.failedClusterReapDelaySecs.toNat * 1000000000 ≤ maxInstant
  reaper : limits.ttlReaperIntervalSecs ≠ 0
  health : present.latestMonotonic + limits.healthCheckTimeoutSecs.toNat * 1000000000 ≤ maxMonotonic

/-! ## Times that can be added -/

variable {present : Present}

theorem add?_isSome {time : DateTime} {delta : TimeDelta} :
    (time.add? delta).isSome = true ↔
      minInstant ≤ time.nanos + delta.nanos ∧ time.nanos + delta.nanos ≤ maxInstant := by
  unfold DateTime.add? DateTime.ofNanos?
  split <;> simp_all

/-- A duration that is no step back can be added to every reading where it can be added to the latest. -/
theorem addable_iff {delta : TimeDelta} (forward : 0 ≤ delta.nanos) :
    (∀ time, present.Near time → (time.add? delta).isSome = true) ↔ present.latest + delta.nanos ≤ maxInstant := by
  constructor
  · intro addable
    obtain ⟨time, near, last⟩ := present.exists_latest
    have added := (add?_isSome.mp (addable time near)).2
    rwa [last] at added
  · intro bounded time near
    have after_first := time.after_first
    have before := near.le_latest
    rw [add?_isSome]
    omega

theorem addableMonotonic_iff {duration : Duration} :
    (∀ instant, present.NearMonotonic instant → (instant.add? duration).isSome = true) ↔
      present.latestMonotonic + duration.nanos ≤ maxMonotonic := by
  constructor
  · intro addable
    obtain ⟨instant, near, last⟩ := present.exists_latestMonotonic
    have added := Instant.add?_isSome.mp (addable instant near)
    rwa [last] at added
  · intro bounded instant near
    have before := near.le_latest
    rw [Instant.add?_isSome]
    omega

theorem toInt_i64OrMax (seconds : UInt64) : (i64OrMax seconds).toInt = min seconds.toNat (2 ^ 63 - 1) := by
  have bound := seconds.toNat_lt
  unfold i64OrMax
  split
  · next small =>
    rw [Int64.toInt_ofNat_of_lt small]
    omega
  · next large =>
    have most : Int64.maxValue.toInt = 2 ^ 63 - 1 := rfl
    rw [most]
    omega

/-- A count of seconds that chrono takes is not clamped before. -/
theorem trySeconds_i64OrMax {seconds : UInt64} {delta : TimeDelta} :
    TimeDelta.trySeconds (i64OrMax seconds) = some delta ↔ delta.nanos = seconds.toNat * 1000000000 := by
  have below := delta.below
  have above := delta.above
  rw [TimeDelta.trySeconds_eq_some, toInt_i64OrMax]
  simp only [maxDelta] at below above
  omega

variable (present) in
theorem exists_delta {nanos : Int} (forward : 0 ≤ nanos) (bounded : present.latest + nanos ≤ maxInstant) :
    ∃ delta : TimeDelta, delta.nanos = nanos := by
  obtain ⟨time, -, last⟩ := present.exists_latest
  have after_first := time.after_first
  have bounds : -maxDelta ≤ nanos ∧ nanos ≤ maxDelta := by
    simp only [maxDelta, minInstant, maxInstant] at *
    omega
  exact ⟨⟨nanos, bounds.1, bounds.2⟩, rfl⟩

/-- What the checks say of the TTLs and the quota. -/
theorem LimitsConfig.check_bounds {limits : LimitsConfig} (checked : limits.check = .ok ()) :
    0 < limits.minTtlSecs.toInt ∧ limits.minTtlSecs.toInt < limits.maxTtlSecs.toInt ∧ limits.maxClustersPerUser ≠ 0 := by
  unfold LimitsConfig.check at checked
  split at checked
  · cases checked
  · next positive =>
    split at checked
    · cases checked
    · next ordered =>
      split at checked
      · cases checked
      · next quota =>
        rw [Int64.le_iff_toInt_le, Int64.toInt_zero] at positive
        rw [Int64.le_iff_toInt_le] at ordered
        exact ⟨by omega, by omega, quota⟩

/-- The accepted TTLs are those within the bounds. -/
theorem Limits.accepts_iff {limits : Limits} {ttl : TimeDelta} (quota : limits.maxClustersPerUser ≠ 0) :
    limits.Accepts ttl ↔ limits.minTtl ≤ ttl ∧ ttl ≤ limits.maxTtl := by
  constructor
  · rintro ⟨rows, fault, cluster, made, next, rfl, created⟩
    exact ClusterService.create_bounds created
  · rintro ⟨least, most⟩
    let cluster := ClusterService.newCluster ⟨0⟩ ⟨""⟩ ⟨.postgres, false⟩ ttl .epoch
    have positive : 0 < limits.maxClustersPerUser := UInt32.pos_iff_ne_zero.mpr quota
    have free : Repository.leastFreeSlot limits.maxClustersPerUser [] = some 0 :=
      Repository.leastFreeSlot_eq_some.mpr ⟨positive, List.not_mem_nil, fun lower below => (UInt32.not_lt_zero below).elim⟩
    have within : ClusterService.checkTtl limits cluster.requestedTtl = .ok () := by
      rw [ClusterService.checkTtl, if_neg]
      rintro (short | long)
      · exact TimeDelta.not_lt.mpr least short
      · exact TimeDelta.not_lt.mpr most long
    have room : ¬ limits.maxClustersPerUser ≤ Repository.countU32 0 := UInt32.not_le.mpr positive
    refine ⟨[], none, cluster, { cluster with slot := 0 }, [Repository.stored { cluster with slot := 0 }], rfl, ?_⟩
    simp [ClusterService.create, within, Repository.tryInsertIfUnderQuota, Repository.listByOwner, Repository.getAny,
      KeyedTable.lookup, room, free]

/-! ## Accepted configurations -/

/-- What is built, count by count. -/
structure LimitsConfig.Builds (limits : LimitsConfig) (timing : Timing) : Prop where
  minTtl : TimeDelta.trySeconds limits.minTtlSecs = some timing.limits.minTtl
  maxTtl : TimeDelta.trySeconds limits.maxTtlSecs = some timing.limits.maxTtl
  quota : timing.limits.maxClustersPerUser = limits.maxClustersPerUser
  estimate : TimeDelta.trySeconds (i64OrMax limits.spawnEstimateSecs) = some timing.spawnEstimate
  reapDelay : TimeDelta.trySeconds (i64OrMax limits.failedClusterReapDelaySecs) = some timing.failedGracePeriod
  reaper : timing.reaperInterval = .fromSecs limits.ttlReaperIntervalSecs
  health : timing.healthCheckTimeout = .fromSecs limits.healthCheckTimeoutSecs

theorem LimitsConfig.timing_eq_some {limits : LimitsConfig} {timing : Timing} :
    limits.timing = some timing ↔ limits.Builds timing := by
  constructor
  · intro built
    simp only [LimitsConfig.timing, bind, Option.bind_eq_some_iff, pure, Option.some.injEq] at built
    obtain ⟨minTtl, least, maxTtl, most, estimate, estimated, delay, delayed, rfl⟩ := built
    exact ⟨least, most, rfl, estimated, delayed, rfl, rfl⟩
  · rintro ⟨least, most, quota, estimated, delayed, reaper, health⟩
    obtain ⟨⟨minTtl, maxTtl, clusters⟩, estimate, period, delay, timeout⟩ := timing
    subst quota reaper health
    simp only [LimitsConfig.timing, least, most, estimated, delayed, bind, Option.bind_some, pure]

/-- The times built of an accepted configuration, against its integers. -/
theorem Timing.safe_iff {limits : LimitsConfig} {timing : Timing} (checked : limits.check = .ok ())
    (built : limits.Builds timing) : timing.Safe present ↔ limits.InRange present := by
  obtain ⟨positive, ordered, quota⟩ := LimitsConfig.check_bounds checked
  have least := TimeDelta.trySeconds_eq_some.mp built.minTtl
  have most := TimeDelta.trySeconds_eq_some.mp built.maxTtl
  have estimate := trySeconds_i64OrMax.mp built.estimate
  have delay := trySeconds_i64OrMax.mp built.reapDelay
  have accepts {ttl : TimeDelta} : timing.limits.Accepts ttl ↔ timing.limits.minTtl ≤ ttl ∧ ttl ≤ timing.limits.maxTtl :=
    Limits.accepts_iff (built.quota ▸ quota)
  have forward : 0 ≤ timing.spawnEstimate.nanos ∧ 0 ≤ timing.failedGracePeriod.nanos := by omega
  constructor
  · intro safe
    have longest : timing.limits.Accepts timing.limits.maxTtl := by
      rw [accepts]
      have below : timing.limits.minTtl.nanos ≤ timing.limits.maxTtl.nanos := by omega
      exact ⟨below, Int.le_refl _⟩
    constructor
    · rw [← most, ← addable_iff (by omega)]
      intro time near
      have isReady := safe.ready limits.maxTtlSecs _ smallConnection time built.maxTtl longest near
      rwa [SpawnTask.outcomeEvent, Option.isSome_map] at isReady
    · rw [← estimate, ← addable_iff forward.1]
      intro time near
      let cluster := ClusterService.newCluster ⟨0⟩ ⟨""⟩ ⟨.postgres, false⟩ smallTtl time
      have answered := safe.info cluster time rfl near
      have state : cluster.state = .spawning time := rfl
      rwa [Http.infoResponse, state, Option.isSome_map] at answered
    · rw [← delay, ← addable_iff forward.2]
      intro time near
      have decided := safe.reaped time time "" near near
      rwa [TtlReaper.dueForReaping, Option.isSome_map] at decided
    · intro zero
      have ticks := safe.reaper
      rw [built.reaper, zero] at ticks
      cases ticks
    · have addable := addableMonotonic_iff.mp safe.health
      rwa [built.health, Duration.nanos_fromSecs] at addable
  · intro range
    constructor
    · intro deps projectTar cluster same near panicked
      have added := (addable_iff forward.1).mpr (estimate ▸ range.estimate) _ near
      obtain ⟨estimatedReadyAt, sum⟩ := Option.isSome_iff_exists.mp added
      simp only [Handlers.launch, same, sum] at panicked
      cases panicked
    · intro cluster startedAt state near
      rw [Http.infoResponse, state, Option.isSome_map]
      exact (addable_iff forward.1).mpr (estimate ▸ range.estimate) _ near
    · intro ttlSecs ttl connection readyAt whole accepted near
      obtain ⟨lower, upper⟩ := accepts.mp accepted
      have lower : timing.limits.minTtl.nanos ≤ ttl.nanos := lower
      have upper : ttl.nanos ≤ timing.limits.maxTtl.nanos := upper
      have bound := range.ttl
      rw [SpawnTask.outcomeEvent, Option.isSome_map]
      exact (addable_iff (by omega)).mpr (by omega) _ near
    · intro failedAt now errorSummary near _
      rw [TtlReaper.dueForReaping, Option.isSome_map]
      exact (addable_iff forward.2).mpr (delay ▸ range.reapDelay) _ near
    · have positive : limits.ttlReaperIntervalSecs.toNat ≠ 0 := fun zero => range.reaper (UInt64.toNat_inj.mp zero)
      rw [built.reaper, interval, if_neg]
      · rfl
      · exact fun zero => positive (by simp only [Duration.fromSecs] at zero; omega)
    · apply addableMonotonic_iff.mpr
      rw [built.health, Duration.nanos_fromSecs]
      exact range.health

theorem LimitsConfig.InRange.builds {limits : LimitsConfig} (checked : limits.check = .ok ())
    (range : limits.InRange present) : ∃ timing, limits.Builds timing := by
  obtain ⟨positive, ordered, -⟩ := LimitsConfig.check_bounds checked
  obtain ⟨maxTtl, most⟩ := exists_delta present (by omega) range.ttl
  have shorter : present.latest + limits.minTtlSecs.toInt * 1000000000 ≤ maxInstant := by
    have bound := range.ttl
    omega
  obtain ⟨minTtl, least⟩ := exists_delta present (by omega) shorter
  obtain ⟨estimate, estimated⟩ := exists_delta present (by omega) range.estimate
  obtain ⟨delay, delayed⟩ := exists_delta present (by omega) range.reapDelay
  exact ⟨⟨⟨minTtl, maxTtl, limits.maxClustersPerUser⟩, estimate, _, delay, _⟩, TimeDelta.trySeconds_eq_some.mpr least,
    TimeDelta.trySeconds_eq_some.mpr most, rfl, trySeconds_i64OrMax.mpr estimated, trySeconds_i64OrMax.mpr delayed, rfl,
    rfl⟩

/-- For an accepted configuration, no arithmetic on its times panics within a century of the present exactly where each
of them can be added to the latest clock reading and the reaper's interval is not zero. -/
theorem accepted_config_safe_iff (present : Present) (config : Config) (accepted : config.validate = .ok ()) :
    config.limits.Safe present ↔ config.limits.InRange present := by
  have checked := config.check_ok accepted
  constructor
  · rintro ⟨timing, built, safe⟩
    exact (Timing.safe_iff checked (LimitsConfig.timing_eq_some.mp built)).mp safe
  · intro range
    obtain ⟨timing, built⟩ := range.builds checked
    exact ⟨timing, LimitsConfig.timing_eq_some.mpr built, (Timing.safe_iff checked built).mpr range⟩

/-- The epoch, right after the machine has started. -/
def smallPresent : Present := ⟨.epoch, .zero⟩

/-- The small installation's configuration. -/
theorem small_config_safe : smallLimits.Safe smallPresent := by
  apply (accepted_config_safe_iff smallPresent smallDeps.config smallDeps.accepted).mpr
  constructor <;> decide

/-- A reaper that is to sweep without a pause. -/
def restlessConfig : Config :=
  ⟨{ smallLimits with ttlReaperIntervalSecs := 0 }, [smallClient "alice" "agent1"]⟩

/-- An accepted configuration over whose interval tokio panics. -/
theorem accepted_config_panics : restlessConfig.validate = .ok () ∧ ¬ restlessConfig.limits.Safe smallPresent := by
  constructor
  · decide +kernel
  · rintro ⟨timing, built, safe⟩
    have ticks := safe.reaper
    rw [(LimitsConfig.timing_eq_some.mp built).reaper] at ticks
    cases ticks

end AppSalmon
