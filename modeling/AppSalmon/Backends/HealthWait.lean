import AppSalmon.Backends
import Mathlib.Data.Nat.Find
import Mathlib.Tactic.Linarith

/-! The health wait against the clock: which observation decides, and how many are made.

The deadline is compared with the clock only after an observation that decides
nothing, so that there is always one observation.
-/

set_option autoImplicit false

namespace AppSalmon.HealthWait

/-- `HEALTH_POLL_INTERVAL` -/
def healthPollInterval : Nat := 500000000

/-- What one call of `wait_until_healthy` is told: the clock at its start, the result of every inspection, and the
clock right after it. -/
structure Observations where
  start : Instant
  inspect : Nat → Except DockerError ContainerStatus
  clock : Nat → Instant

structure Call where
  handle : String
  timeout : Duration
  requiresHealthcheck : Bool

inductive Outcome where
  /-- The deadline is past the last `Instant`. -/
  | panicked
  | returned (result : Except ClusterError (Option UInt16)) (inspections : Nat)
  /-- Still polling when the fuel is used up. -/
  | running

variable (call : Call) (observations : Observations)

def Call.waitedSecs : UInt64 := UInt64.ofNat (call.timeout.nanos / 1000000000)

def Call.timedOut : Except ClusterError (Option UInt16) :=
  .error (.docker (.healthCheckTimeout call.handle call.waitedSecs))

/-- One turn of the loop: what it returns, if it is the last one. -/
def turn (deadline : Instant) (k : Nat) : Option (Except ClusterError (Option UInt16)) :=
  match observations.inspect k with
  | .error error => some (.error (.docker error))
  | .ok status =>
    match decide call.handle call.requiresHealthcheck status with
    | some result => some result
    -- the clock is read only now: a container that is ready past the deadline is still ready
    | none => if deadline.nanos ≤ (observations.clock k).nanos then some call.timedOut else none

def poll (deadline : Instant) (k : Nat) : Nat → Outcome
  | 0 => .running
  | fuel + 1 =>
    match turn call observations deadline k with
    | some result => .returned result (k + 1)
    | none => poll deadline (k + 1) fuel

def wait (fuel : Nat) : Outcome :=
  match observations.start.add? call.timeout with
  -- the sum of an `Instant` and a `Duration` panics where it is none
  | none => .panicked
  | some deadline => poll call observations deadline 0 fuel

/-! ## What it is to decide -/

def Call.Ready (publishedPort : Option UInt16) (seen : Except DockerError ContainerStatus) : Prop :=
  ∃ health, seen = .ok (.running publishedPort health) ∧ (call.requiresHealthcheck = false ∨ health = some .healthy)

def Call.Undecided (seen : Except DockerError ContainerStatus) : Prop :=
  ∃ publishedPort health, seen = .ok (.running publishedPort health) ∧ call.requiresHealthcheck = true ∧
    health ≠ some .healthy

def Gone (exitCode : Option Int32) (seen : Except DockerError ContainerStatus) : Prop :=
  match exitCode with
  | some code => seen = .ok (.exited code)
  | none => seen = .ok .notFound

/-- The result is that of the last observation, which is the first one to decide or the one after which it is too
late. -/
structure Decides (deadline : Instant) (result : Except ClusterError (Option UInt16)) (last : Nat) : Prop where
  earlier : ∀ k < last, call.Undecided (observations.inspect k) ∧ (observations.clock k).nanos < deadline.nanos
  ready : ∀ publishedPort, result = .ok publishedPort ↔ call.Ready publishedPort (observations.inspect last)
  failed : ∀ error, observations.inspect last = .error error → result = .error (.docker error)
  gone : (observations.inspect last).isOk = true → ∀ exitCode,
    result = .error (.docker (.containerNotHealthy call.handle exitCode)) ↔ Gone exitCode (observations.inspect last)
  late : (observations.inspect last).isOk = true →
    (result = call.timedOut ↔
      call.Undecided (observations.inspect last) ∧ deadline.nanos ≤ (observations.clock last).nanos)

/-- The call comes back, always with the same result, after one inspection at least and not too many. -/
def WaitsCorrectly : Prop :=
  ∃ deadline result last, observations.start.add? call.timeout = some deadline ∧
    (∀ fuel, call.timeout.nanos / healthPollInterval + 2 ≤ fuel →
      wait call observations fuel = .returned result (last + 1)) ∧
    last + 1 ≤ call.timeout.nanos / healthPollInterval + 2 ∧ Decides call observations deadline result last

/-- The clock does not go backwards, and a sleep lasts as long as it is to. -/
structure Paced (deadline : Instant) : Prop where
  first : observations.start.nanos ≤ (observations.clock 0).nanos
  next : ∀ k, (observations.clock k).nanos < deadline.nanos →
    (observations.clock k).nanos + healthPollInterval ≤ (observations.clock (k + 1)).nanos

variable {call : Call} {observations : Observations} {deadline : Instant}

/-! ## One turn -/

theorem decide_eq_none {requiresHealthcheck : Bool} {handle : String} {status : ContainerStatus} :
    decide handle requiresHealthcheck status = none ↔ ∃ publishedPort health,
      status = .running publishedPort health ∧ requiresHealthcheck = true ∧ health ≠ some .healthy := by
  cases status with
  | running publishedPort health => simp [decide]
  | exited | notFound => simp [decide]

/-- The loop goes on after an observation that decides nothing and is in time. -/
theorem turn_eq_none {k : Nat} :
    turn call observations deadline k = none ↔
      call.Undecided (observations.inspect k) ∧ (observations.clock k).nanos < deadline.nanos := by
  unfold turn Call.Undecided
  cases seen : observations.inspect k with
  | error error => simp
  | ok status =>
    simp only [Except.ok.injEq]
    cases decided : decide call.handle call.requiresHealthcheck status with
    | some result =>
      have ready : ¬ ∃ publishedPort health, status = .running publishedPort health ∧
          call.requiresHealthcheck = true ∧ health ≠ some .healthy := by
        intro undecided
        cases decided.symm.trans (decide_eq_none.mpr undecided)
      simp only [ready, false_and, reduceCtorEq]
    | none =>
      have undecided := decide_eq_none.mp decided
      simp only [undecided, true_and, ite_eq_right_iff, reduceCtorEq, imp_false, Int.not_le]

/-- Everything the last turn may have seen, and what it returns then. -/
inductive Ends (call : Call) (observations : Observations) (deadline : Instant) (k : Nat) :
    Except DockerError ContainerStatus → Except ClusterError (Option UInt16) → Prop where
  | failed (error : DockerError) : Ends call observations deadline k (.error error) (.error (.docker error))
  | ready (publishedPort : Option UInt16) (health : Option HealthState) :
      call.requiresHealthcheck = false ∨ health = some .healthy →
      Ends call observations deadline k (.ok (.running publishedPort health)) (.ok publishedPort)
  | exited (code : Int32) : Ends call observations deadline k (.ok (.exited code))
      (.error (.docker (.containerNotHealthy call.handle (some code))))
  | notFound : Ends call observations deadline k (.ok .notFound)
      (.error (.docker (.containerNotHealthy call.handle none)))
  | late {seen : Except DockerError ContainerStatus} : call.Undecided seen →
      deadline.nanos ≤ (observations.clock k).nanos → Ends call observations deadline k seen call.timedOut

theorem ends_of_turn {k : Nat} {result : Except ClusterError (Option UInt16)}
    (returns : turn call observations deadline k = some result) :
    Ends call observations deadline k (observations.inspect k) result := by
  unfold turn at returns
  cases seen : observations.inspect k with
  | error error =>
    rw [seen] at returns
    obtain rfl := Option.some.inj returns
    exact .failed error
  | ok status =>
    rw [seen] at returns
    cases status with
    | running publishedPort health =>
      by_cases ready : call.requiresHealthcheck = false ∨ health = some .healthy
      · simp only [decide, if_pos ready, Option.some.injEq] at returns
        subst returns
        exact .ready publishedPort health ready
      · simp only [decide, if_neg ready, Option.ite_none_right_eq_some, Option.some.injEq] at returns
        obtain ⟨late, rfl⟩ := returns
        have required : call.requiresHealthcheck = true ∧ health ≠ some .healthy := by simpa using ready
        exact .late ⟨publishedPort, health, rfl, required⟩ late
    | exited code =>
      obtain rfl := Option.some.inj returns
      exact .exited code
    | notFound =>
      obtain rfl := Option.some.inj returns
      exact .notFound

theorem Call.Undecided.not_ready {seen : Except DockerError ContainerStatus} (undecided : call.Undecided seen)
    (publishedPort : Option UInt16) : ¬ call.Ready publishedPort seen := by
  obtain ⟨port, health, rfl, required, unhealthy⟩ := undecided
  rintro ⟨other, same, ready⟩
  obtain ⟨-, rfl⟩ := ContainerStatus.running.inj (Except.ok.inj same)
  rcases ready with not_required | healthy
  · rw [required] at not_required
    cases not_required
  · exact unhealthy healthy

theorem decides_of_turn {last : Nat} {result : Except ClusterError (Option UInt16)}
    (earlier : ∀ k < last, turn call observations deadline k = none)
    (returns : turn call observations deadline last = some result) : Decides call observations deadline result last := by
  have ends := ends_of_turn returns
  refine ⟨fun k before => turn_eq_none.mp (earlier k before), ?_, ?_, ?_, ?_⟩
  · intro publishedPort
    generalize observations.inspect last = seen at ends
    cases ends with
    | failed | exited | notFound => simp [Call.Ready]
    | ready port health ready =>
      constructor
      · rintro same
        obtain rfl := Except.ok.inj same
        exact ⟨health, rfl, ready⟩
      · rintro ⟨other, same, -⟩
        rw [(ContainerStatus.running.inj (Except.ok.inj same)).1]
    | late undecided late =>
      exact iff_of_false (by simp [Call.timedOut]) (undecided.not_ready publishedPort)
  · intro error seen
    rw [seen] at ends
    cases ends with
    | failed => rfl
    | late undecided =>
      -- an error of the runtime returns at once, whatever the clock says
      obtain ⟨port, health, same, -⟩ := undecided
      cases same
  · intro answered exitCode
    generalize observations.inspect last = seen at ends answered
    cases ends with
    | failed => cases answered
    | ready | exited | notFound => cases exitCode <;> simp [Gone, eq_comm]
    | late undecided late =>
      obtain ⟨port, health, rfl, -⟩ := undecided
      cases exitCode <;> simp [Gone, Call.timedOut]
  · intro answered
    generalize observations.inspect last = seen at ends answered
    cases ends with
    | failed => cases answered
    | ready port health ready =>
      apply iff_of_false (by simp [Call.timedOut])
      rintro ⟨undecided, -⟩
      exact undecided.not_ready port ⟨health, rfl, ready⟩
    | exited | notFound => simp [Call.timedOut, Call.Undecided]
    | late undecided late => exact iff_of_true rfl ⟨undecided, late⟩

/-! ## The loop -/

theorem poll_eq {k n : Nat} {result : Except ClusterError (Option UInt16)}
    (earlier : ∀ j < n, turn call observations deadline (k + j) = none)
    (returns : turn call observations deadline (k + n) = some result) {fuel : Nat} (enough : n < fuel) :
    poll call observations deadline k fuel = .returned result (k + n + 1) := by
  -- every turn before the last one uses up one unit of the fuel
  induction n generalizing k fuel with
  | zero =>
    cases fuel with
    | zero => omega
    | succ fuel =>
      rw [Nat.add_zero] at returns
      simp only [poll, returns, Nat.add_zero]
  | succ n ih =>
    cases fuel with
    | zero => omega
    | succ fuel =>
      have first : turn call observations deadline k = none := earlier 0 (by omega)
      have position : ∀ j, k + 1 + j = k + (j + 1) := fun j => by omega
      simp only [poll, first]
      rw [ih (k := k + 1) _ _ (by omega), position]
      · intro j before
        rw [position]
        exact earlier (j + 1) (by omega)
      · rwa [position]

/-- As long as the loop goes on, the clock moves by an interval for every turn. -/
theorem clock_after (paced : Paced observations deadline) {n : Nat}
    (going : ∀ j < n, turn call observations deadline j = none) :
    observations.start.nanos + n * healthPollInterval ≤ (observations.clock n).nanos := by
  induction n with
  | zero =>
    have first := paced.first
    omega
  | succ n ih =>
    have before := ih fun j below => going j (by omega)
    have step := paced.next n (turn_eq_none.mp (going n (by omega))).2
    push_cast
    rw [Int.add_mul]
    omega

/-- A turn returns before the clock has moved by the timeout and one interval more. -/
theorem exists_last (paced : Paced observations deadline)
    (added : observations.start.add? call.timeout = some deadline) :
    ∃ last result, last ≤ call.timeout.nanos / healthPollInterval + 1 ∧
      (∀ k < last, turn call observations deadline k = none) ∧
        turn call observations deadline last = some result := by
  have stops : ∃ k, k ≤ call.timeout.nanos / healthPollInterval + 1 ∧ turn call observations deadline k ≠ none := by
    by_contra never
    have going : ∀ k ≤ call.timeout.nanos / healthPollInterval + 1, turn call observations deadline k = none := by
      intro k below
      by_contra stopped
      exact never ⟨k, below, stopped⟩
    -- so many turns move the clock past the deadline, and the last of them would have seen it
    have late := clock_after paced fun j below => going j (Nat.le_of_lt below)
    have early := (turn_eq_none.mp (going _ le_rfl)).2
    have sum : deadline.nanos = observations.start.nanos + call.timeout.nanos := by
      unfold Instant.add? at added
      split at added
      · rw [← Option.some.inj added]
      · cases added
    have bound : (call.timeout.nanos : Int) <
        ((call.timeout.nanos / healthPollInterval + 1 : Nat) : Int) * healthPollInterval := by
      rw [Int.mul_comm]
      exact_mod_cast Nat.lt_mul_div_succ call.timeout.nanos (show 0 < healthPollInterval by decide)
    linarith
  classical
  -- the last turn is the first that returns anything
  have found := Nat.find_spec stops
  obtain ⟨result, returns⟩ := Option.ne_none_iff_exists'.mp found.2
  refine ⟨Nat.find stops, result, found.1, fun k before => ?_, returns⟩
  by_contra stopped
  exact Nat.find_min stops before ⟨by omega, stopped⟩

/-- The wait decides as it should, and ends, exactly where the deadline is an `Instant`. -/
theorem waitsCorrectly_iff_representable (call : Call) (observations : Observations)
    (paced : ∀ deadline, observations.start.add? call.timeout = some deadline → Paced observations deadline) :
    WaitsCorrectly call observations ↔ observations.start.nanos + call.timeout.nanos ≤ maxMonotonic := by
  rw [← Instant.add?_isSome]
  constructor
  · rintro ⟨deadline, result, last, added, -⟩
    rw [added]
    rfl
  · intro representable
    obtain ⟨deadline, added⟩ := Option.isSome_iff_exists.mp representable
    obtain ⟨last, result, soon, earlier, returns⟩ := exists_last (paced deadline added) added
    refine ⟨deadline, result, last, added, ?_, by omega, decides_of_turn earlier returns⟩
    intro fuel enough
    -- the bound on the turns is enough fuel, and more changes nothing
    have polled := poll_eq (k := 0) (n := last) (fun j before => by simpa using earlier j before)
      (by simpa using returns) (show last < fuel by omega)
    simp only [wait, added, polled, Nat.zero_add]

/-! ## The wait as a sequence of calls -/

def replyOf : Except DockerError ContainerStatus → ExternalReply
  | .ok status => .status status
  | .error (.inspectContainer _ source) => .refused source
  | .error _ => .refused ""

def answering (observations : Observations) : Cancellation.Server Nat ExternalCall ExternalReply Unit :=
  fun made call _ => match call with
    | .inspectContainer _ => (replyOf (observations.inspect made), made + 1)
    | _ => (.done, made)

def FromDaemon (call : Call) (observations : Observations) : Prop :=
  ∀ k error, observations.inspect k = .error error → ∃ source, error = .inspectContainer call.handle source

open Cancellation (Client) in
theorem execute_inspect {α : Type} (daemon : FromDaemon call observations)
    (next : ContainerStatus → External (Except ClusterError α)) (k : Nat) :
    ((viaDocker (BollardContainerRuntime.inspect call.handle)).andThen next).execute (answering observations) () k =
      match observations.inspect k with
      | .error error => (.error (.docker error), k + 1)
      | .ok status => (next status).execute (answering observations) () (k + 1) := by
  cases seen : observations.inspect k with
  | error error =>
    obtain ⟨source, rfl⟩ := daemon k error seen
    simp [viaDocker, BollardContainerRuntime.inspect, Client.andThen, Client.map, Client.bind, Client.send,
      Client.execute, answering, replyOf, seen, Except.mapError]
  | ok status =>
    simp [viaDocker, BollardContainerRuntime.inspect, Client.andThen, Client.map, Client.bind, Client.send,
      Client.execute, answering, replyOf, seen, Except.mapError]

/-- With as many polls as there are readings before the deadline, the sequence of calls is the loop. -/
theorem poll_eq_execute (daemon : FromDaemon call observations) {k polls : Nat}
    (early : ∀ j < polls, (observations.clock (k + j)).nanos < deadline.nanos)
    (late : deadline.nanos ≤ (observations.clock (k + polls)).nanos) :
    let ran := (waitUntilHealthy call.handle call.waitedSecs call.requiresHealthcheck polls).execute
      (answering observations) () k
    poll call observations deadline k (polls + 1) = .returned ran.1 ran.2 := by
  induction polls generalizing k with
  | zero =>
    rw [Nat.add_zero] at late
    simp only [waitUntilHealthy, execute_inspect daemon, poll, turn]
    cases observations.inspect k with
    | error error => rfl
    | ok status =>
      simp only [late, if_true]
      cases decide call.handle call.requiresHealthcheck status with
      | some result => rfl
      | none => rfl
  | succ polls ih =>
    have position : ∀ j, k + 1 + j = k + (j + 1) := fun j => by omega
    have onward := ih (k := k + 1) (fun j before => by rw [position]; exact early (j + 1) (by omega))
      (by rwa [position])
    have first : ¬ deadline.nanos ≤ (observations.clock k).nanos := by
      have before := early 0 (by omega)
      rw [Nat.add_zero] at before
      omega
    simp only [waitUntilHealthy, execute_inspect daemon]
    rw [poll]
    simp only [turn]
    cases observations.inspect k with
    | error error => rfl
    | ok status =>
      simp only [first, if_false]
      cases decide call.handle call.requiresHealthcheck status with
      | some result => rfl
      -- nothing decided and time left: the sleep is answered without another inspection
      | none => exact onward

/-! ## The two together -/

/-- The wait ends in time and with the right result exactly where its deadline can be represented; and the calls of the
backends are this loop, polled as often as its clock allows. -/
theorem waits_correctly_iff (call : Call) (observations : Observations)
    (paced : ∀ deadline, observations.start.add? call.timeout = some deadline → Paced observations deadline) :
    (WaitsCorrectly call observations ↔ observations.start.nanos + call.timeout.nanos ≤ maxMonotonic) ∧
    (FromDaemon call observations → ∀ deadline polls, observations.start.add? call.timeout = some deadline →
      (∀ k < polls, (observations.clock k).nanos < deadline.nanos) → deadline.nanos ≤ (observations.clock polls).nanos →
      let ran := (waitUntilHealthy call.handle call.waitedSecs call.requiresHealthcheck polls).execute
        (answering observations) () 0
      wait call observations (polls + 1) = .returned ran.1 ran.2) := by
  refine ⟨waitsCorrectly_iff_representable call observations paced, fun daemon deadline polls added early late => ?_⟩
  have polled := @poll_eq_execute call observations deadline daemon 0 polls (fun k before => by simpa using early k before)
    (by simpa using late)
  simpa only [wait, added] using polled

def tenSeconds : Call := ⟨"app-salmon-01", Duration.fromSecs 10, true⟩

def soonHealthy : Observations where
  start := .zero
  inspect k := .ok (.running (some 5432) (if k = 0 then some .starting else some .healthy))
  clock k := ⟨(min k 60 : Nat) * 1000000000, by omega, by simp only [maxMonotonic]; omega⟩

theorem soonHealthy_waits :
    WaitsCorrectly tenSeconds soonHealthy ↔ soonHealthy.start.nanos + tenSeconds.timeout.nanos ≤ maxMonotonic := by
  apply (waits_correctly_iff tenSeconds soonHealthy _).1
  intro deadline added
  have sum : deadline.nanos = 10000000000 := by
    rw [← Option.some.inj added]
    rfl
  constructor
  · decide
  · intro k early
    rw [sum] at early
    simp only [soonHealthy, healthPollInterval] at early ⊢
    omega

def endless : Call := { tenSeconds with timeout := Duration.fromSecs 18446744073709551615 }

theorem endless_panics :
    (∀ fuel, wait endless soonHealthy fuel = .panicked) ∧ ¬ WaitsCorrectly endless soonHealthy := by
  have overflows : soonHealthy.start.add? endless.timeout = none := by decide +kernel
  constructor
  · intro fuel
    simp only [wait, overflows]
  · rintro ⟨deadline, result, last, added, -⟩
    rw [overflows] at added
    cases added

end AppSalmon.HealthWait
