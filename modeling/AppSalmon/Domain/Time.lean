import Mathlib.Algebra.Order.Ring.Int

/-! Instants and durations, as chrono and the standard library have them.

All of these types are bounded, and all carry their bound. Adding a duration to
an instant yields nothing where the source panics.
-/

set_option autoImplicit false

namespace AppSalmon

/-- Nanoseconds from the epoch to midnight of 1 January of the year -262143. -/
def minInstant : Int := -8334601228800 * 1000000000

/-- Nanoseconds from the epoch to the end of the year 262142. -/
def maxInstant : Int := 8210266876799 * 1000000000 + 999999999

/-- `DateTime<Utc>`, in nanoseconds from the epoch. -/
structure DateTime where
  nanos : Int
  after_first : minInstant ≤ nanos
  before_last : nanos ≤ maxInstant
  deriving DecidableEq

/-- A duration reaches `i64::MAX` milliseconds in either direction, in nanoseconds here. -/
def maxDelta : Int := (2 ^ 63 - 1) * 1000000

structure TimeDelta where
  nanos : Int
  above : -maxDelta ≤ nanos
  below : nanos ≤ maxDelta
  deriving DecidableEq

namespace DateTime

instance : LE DateTime := ⟨fun first second => first.nanos ≤ second.nanos⟩

instance (first second : DateTime) : Decidable (first ≤ second) :=
  inferInstanceAs (Decidable (first.nanos ≤ second.nanos))

def epoch : DateTime := ⟨0, by decide, by decide⟩

def ofNanos? (nanos : Int) : Option DateTime :=
  if bounds : minInstant ≤ nanos ∧ nanos ≤ maxInstant then some ⟨nanos, bounds.1, bounds.2⟩ else none

/-- `time + delta`; chrono panics where this is `none`. -/
def add? (time : DateTime) (delta : TimeDelta) : Option DateTime := ofNanos? (time.nanos + delta.nanos)

theorem ofNanos?_eq_some {nanos : Int} {time : DateTime} :
    ofNanos? nanos = some time ↔ time.nanos = nanos := by
  unfold ofNanos?
  constructor
  · intro same
    split at same
    · cases same; rfl
    · cases same
  · rintro rfl
    rw [dif_pos ⟨time.after_first, time.before_last⟩]

end DateTime

namespace TimeDelta

instance : LT TimeDelta := ⟨fun first second => first.nanos < second.nanos⟩

instance (first second : TimeDelta) : Decidable (first < second) :=
  inferInstanceAs (Decidable (first.nanos < second.nanos))

instance : LE TimeDelta := ⟨fun first second => first.nanos ≤ second.nanos⟩

instance (first second : TimeDelta) : Decidable (first ≤ second) :=
  inferInstanceAs (Decidable (first.nanos ≤ second.nanos))

/-- No time. -/
def zero : TimeDelta := ⟨0, by decide, by decide⟩

theorem not_lt {first second : TimeDelta} : ¬ first < second ↔ second ≤ first := Int.not_lt

def ofNanos? (nanos : Int) : Option TimeDelta :=
  if bounds : -maxDelta ≤ nanos ∧ nanos ≤ maxDelta then some ⟨nanos, bounds.1, bounds.2⟩ else none

/-- `TimeDelta::try_seconds`; `TimeDelta::seconds` panics where this is `none`. -/
def trySeconds (seconds : Int64) : Option TimeDelta := ofNanos? (seconds.toInt * 1000000000)

/-- Whole seconds, rounded toward zero. -/
def numSeconds (delta : TimeDelta) : Int64 := Int64.ofInt (delta.nanos.tdiv 1000000000)

/-- A duration that `try_seconds` can build. -/
def WholeSeconds (delta : TimeDelta) : Prop := (1000000000 : Int) ∣ delta.nanos

instance (delta : TimeDelta) : Decidable delta.WholeSeconds :=
  inferInstanceAs (Decidable ((1000000000 : Int) ∣ delta.nanos))

theorem ofNanos?_eq_some {nanos : Int} {delta : TimeDelta} :
    ofNanos? nanos = some delta ↔ delta.nanos = nanos := by
  unfold ofNanos?
  constructor
  · intro same
    split at same
    · cases same; rfl
    · cases same
  · rintro rfl
    rw [dif_pos ⟨delta.above, delta.below⟩]

theorem trySeconds_eq_some {seconds : Int64} {delta : TimeDelta} :
    trySeconds seconds = some delta ↔ delta.nanos = seconds.toInt * 1000000000 :=
  ofNanos?_eq_some

theorem truncation_between (delta : TimeDelta) :
    min delta.nanos 0 ≤ delta.nanos.tdiv 1000000000 * 1000000000 ∧
      delta.nanos.tdiv 1000000000 * 1000000000 ≤ max delta.nanos 0 := by
  rcases Int.le_total 0 delta.nanos with positive | negative
  · rw [Int.tdiv_eq_ediv_of_nonneg positive]
    omega
  · have flipped : delta.nanos.tdiv 1000000000 = -((-delta.nanos) / 1000000000) := by
      rw [← Int.tdiv_eq_ediv_of_nonneg (by omega), Int.neg_tdiv, Int.neg_neg]
    omega

theorem toInt_numSeconds (delta : TimeDelta) :
    delta.numSeconds.toInt = delta.nanos.tdiv 1000000000 := by
  have above := delta.above
  have below := delta.below
  have between := delta.truncation_between
  simp only [maxDelta] at above below
  exact Int64.toInt_ofInt_of_le (by omega) (by omega)

/-- The duration a whole-second count stands for: the fraction is dropped. -/
def truncated (delta : TimeDelta) : TimeDelta where
  nanos := delta.nanos.tdiv 1000000000 * 1000000000
  above := by
    have above := delta.above
    have between := delta.truncation_between
    simp only [maxDelta] at above ⊢
    omega
  below := by
    have below := delta.below
    have between := delta.truncation_between
    simp only [maxDelta] at below ⊢
    omega

theorem truncated_eq (delta : TimeDelta) : trySeconds delta.numSeconds = some delta.truncated := by
  rw [trySeconds_eq_some, toInt_numSeconds, truncated]

@[simp] theorem numSeconds_truncated (delta : TimeDelta) : delta.truncated.numSeconds = delta.numSeconds := by
  simp [numSeconds, truncated]

theorem truncated_of_wholeSeconds {delta : TimeDelta} (whole : delta.WholeSeconds) :
    delta.truncated = delta := by
  rw [← Option.some.injEq, ← truncated_eq, trySeconds_eq_some, toInt_numSeconds,
    Int.tdiv_mul_cancel whole]

end TimeDelta

/-! ## The monotonic clock -/

/-- The end of the last second that an `i64` counts, in nanoseconds. -/
def maxMonotonic : Int := (2 ^ 63 - 1) * 1000000000 + 999999999

/-- `Instant`, in nanoseconds from the clock's own start. -/
structure Instant where
  nanos : Int
  after_first : -2 ^ 63 * 1000000000 ≤ nanos
  before_last : nanos ≤ maxMonotonic
  deriving DecidableEq

/-- `Duration`: at most `u64::MAX` seconds and their nanoseconds. -/
structure Duration where
  nanos : Nat
  below : nanos < 2 ^ 64 * 1000000000
  deriving DecidableEq

def Duration.fromSecs (seconds : UInt64) : Duration where
  nanos := seconds.toNat * 1000000000
  below := Nat.mul_lt_mul_of_pos_right seconds.toNat_lt (by decide)

theorem Duration.nanos_fromSecs (seconds : UInt64) :
    ((Duration.fromSecs seconds).nanos : Int) = seconds.toNat * 1000000000 := rfl

namespace Instant

/-- The clock's own start. -/
def zero : Instant := ⟨0, by decide, by decide⟩

/-- `instant + duration`; the standard library panics where this is `none`. -/
def add? (instant : Instant) (duration : Duration) : Option Instant :=
  if below : instant.nanos + duration.nanos ≤ maxMonotonic then
    some ⟨instant.nanos + duration.nanos, by have above := instant.after_first; omega, below⟩
  else none

theorem add?_isSome {instant : Instant} {duration : Duration} :
    (instant.add? duration).isSome = true ↔ instant.nanos + duration.nanos ≤ maxMonotonic := by
  unfold add?
  split <;> simp_all

end Instant

end AppSalmon
