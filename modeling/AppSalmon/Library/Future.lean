import Mathlib.Tactic.Common

/-! Futures that may be dropped while they wait.

Between two awaits a future runs without interruption. A closure that is with
the blocking pool runs to its end whether or not anyone still waits for it;
whatever comes after the await does not happen any more.
-/

set_option autoImplicit false

namespace Droppable

/-- What is left of a future, on a store `σ` whose calls meet `ε`. -/
inductive Future (σ ε ω α : Type) : Type 1 where
  | ready (result : α)
  | panicked
  /-- Work handed to a detached task, without an await. -/
  | hand (work : ω) (rest : Future σ ε ω α)
  /-- Awaits a value from outside. -/
  | wait {β : Type} (resume : β → Future σ ε ω α)
  /-- Awaits a closure that runs on the store. -/
  | blocking {β : Type} (closure : ε → σ → β × σ) (resume : β → Future σ ε ω α)

/-- What is seen of a future from outside. The store may be any, whatever others have done to it meanwhile. -/
inductive Event (σ ε ω : Type) where
  | called (met : ε) (before after : σ)
  | handed (work : ω)

namespace Future

variable {σ ε ω α β : Type}

def bind (first : Future σ ε ω α) (next : α → Future σ ε ω β) : Future σ ε ω β :=
  match first with
  | ready result => next result
  | panicked => panicked
  | hand work rest => hand work (rest.bind next)
  | wait resume => wait fun value => (resume value).bind next
  | blocking closure resume => blocking closure fun value => (resume value).bind next

/-- The future is dropped at one of its awaits, and its closures have run to their end. -/
def Drops : Future σ ε ω α → List (Event σ ε ω) → Prop
  | ready _, _ | panicked, _ => False
  | hand work rest, events => ∃ later, events = .handed work :: later ∧ rest.Drops later
  | wait resume, events => events = [] ∨ ∃ value, (resume value).Drops events
  | blocking closure resume, events => ∃ met before later,
      events = .called met before (closure met before).2 :: later ∧
        (later = [] ∨ (resume (closure met before).1).Drops later)

/-- The future comes to its end. -/
def Completes : Future σ ε ω α → List (Event σ ε ω) → α → Prop
  | ready result, events, out => events = [] ∧ out = result
  | panicked, _, _ => False
  | hand work rest, events, out => ∃ later, events = .handed work :: later ∧ rest.Completes later out
  | wait resume, events, out => ∃ value, (resume value).Completes events out
  | blocking closure resume, events, out => ∃ met before later,
      events = .called met before (closure met before).2 :: later ∧
        (resume (closure met before).1).Completes later out

/-! ## Sequencing -/

theorem bind_assoc {γ : Type} (first : Future σ ε ω α) (next : α → Future σ ε ω β) (last : β → Future σ ε ω γ) :
    (first.bind next).bind last = first.bind fun result => (next result).bind last := by
  induction first with
  | ready | panicked => rfl
  | hand work rest ih => simp only [bind, ih]
  | wait resume ih => simp only [bind, ih]
  | blocking closure resume ih => simp only [bind, ih]

theorem completes_bind {first : Future σ ε ω α} {next : α → Future σ ε ω β} {events : List (Event σ ε ω)} {out : β} :
    (first.bind next).Completes events out ↔
      ∃ result done later, events = done ++ later ∧ first.Completes done result ∧
        (next result).Completes later out := by
  induction first generalizing events with
  | ready result => simp [bind, Completes]
  | panicked => simp [bind, Completes]
  | hand work rest ih =>
    simp only [bind, Completes, ih]
    constructor
    · rintro ⟨later, rfl, result, done, last, rfl, complete, ends⟩
      exact ⟨result, .handed work :: done, last, rfl, ⟨done, rfl, complete⟩, ends⟩
    · rintro ⟨result, done, last, rfl, ⟨later, rfl, complete⟩, ends⟩
      exact ⟨later ++ last, rfl, result, later, last, rfl, complete, ends⟩
  | wait resume ih =>
    simp only [bind, Completes, ih]
    constructor
    · rintro ⟨value, result, done, later, rfl, complete, ends⟩
      exact ⟨result, done, later, rfl, ⟨value, complete⟩, ends⟩
    · rintro ⟨result, done, later, rfl, ⟨value, complete⟩, ends⟩
      exact ⟨value, result, done, later, rfl, complete, ends⟩
  | blocking closure resume ih =>
    simp only [bind, Completes, ih]
    constructor
    · rintro ⟨met, before, later, rfl, result, done, last, rfl, complete, ends⟩
      exact ⟨result, _ :: done, last, rfl, ⟨met, before, done, rfl, complete⟩, ends⟩
    · rintro ⟨result, done, last, rfl, ⟨met, before, later, rfl, complete⟩, ends⟩
      exact ⟨met, before, later ++ last, rfl, result, later, last, rfl, complete, ends⟩

/-- A first part that comes to a value without being seen leaves the rest as it is. -/
theorem completes_bind_silent {first : Future σ ε ω α} {next : α → Future σ ε ω β} {value : α}
    (silent : ∀ events result, first.Completes events result ↔ events = [] ∧ result = value)
    {events : List (Event σ ε ω)} {out : β} : (first.bind next).Completes events out ↔ (next value).Completes events out := by
  rw [completes_bind]
  constructor
  · intro ⟨result, done, later, split, reading, complete⟩
    obtain ⟨rfl, rfl⟩ := (silent done result).mp reading
    rwa [split]
  · intro complete
    exact ⟨value, [], events, rfl, (silent _ _).mpr ⟨rfl, rfl⟩, complete⟩

/-! ## Where work is handed over -/

/-- Nothing is handed over. -/
def Quiet : Future σ ε ω α → Prop
  | ready _ | panicked => True
  | hand _ _ => False
  | wait resume => ∀ value, (resume value).Quiet
  | blocking _ resume => ∀ value, (resume value).Quiet

/-- No await is left. -/
def Final : Future σ ε ω α → Prop
  | ready _ | panicked => True
  | hand _ rest => rest.Final
  | wait _ | blocking _ _ => False

/-- Nothing is handed over before the last await. -/
def HandsLast : Future σ ε ω α → Prop
  | ready _ | panicked => True
  | hand _ rest => rest.Final
  | wait resume => ∀ value, (resume value).HandsLast
  | blocking _ resume => ∀ value, (resume value).HandsLast

theorem Final.handsLast {future : Future σ ε ω α} (final : future.Final) : future.HandsLast := by
  cases future with
  | ready | panicked => trivial
  | hand => exact final
  | wait | blocking => exact final.elim

theorem Quiet.bind {first : Future σ ε ω α} {next : α → Future σ ε ω β} (quiet : first.Quiet)
    (rest : ∀ result, (next result).Quiet) : (first.bind next).Quiet := by
  induction first with
  | ready result => exact rest result
  | panicked => trivial
  | hand => exact quiet.elim
  | wait resume ih => exact fun value => ih value (quiet value)
  | blocking closure resume ih => exact fun value => ih value (quiet value)

theorem HandsLast.bind {first : Future σ ε ω α} {next : α → Future σ ε ω β} (quiet : first.Quiet)
    (rest : ∀ result, (next result).HandsLast) : (first.bind next).HandsLast := by
  induction first with
  | ready result => exact rest result
  | panicked => trivial
  | hand => exact quiet.elim
  | wait resume ih => exact fun value => ih value (quiet value)
  | blocking closure resume ih => exact fun value => ih value (quiet value)

/-- Nothing but waits for the outside. -/
def Outside : Future σ ε ω α → Prop
  | ready _ | panicked => True
  | wait resume => ∀ value, (resume value).Outside
  | hand _ _ | blocking _ _ => False

theorem Outside.bind {first : Future σ ε ω α} {next : α → Future σ ε ω β} (outside : first.Outside)
    (rest : ∀ result, (next result).Outside) : (first.bind next).Outside := by
  induction first with
  | ready result => exact rest result
  | panicked => trivial
  | hand | blocking => exact outside.elim
  | wait resume ih => exact fun value => ih value (outside value)

theorem Outside.quiet {future : Future σ ε ω α} (outside : future.Outside) : future.Quiet := by
  induction future with
  | ready | panicked => trivial
  | hand | blocking => exact outside.elim
  | wait resume ih => exact fun value => ih value (outside value)

theorem Outside.drops {future : Future σ ε ω α} {events : List (Event σ ε ω)} (outside : future.Outside)
    (dropped : future.Drops events) : events = [] := by
  induction future with
  | ready | panicked => exact dropped.elim
  | hand | blocking => exact outside.elim
  | wait resume ih =>
    rcases dropped with same | ⟨value, again⟩
    · exact same
    · exact ih value (outside value) again

theorem Outside.completes {future : Future σ ε ω α} {events : List (Event σ ε ω)} {out : α}
    (outside : future.Outside) (complete : future.Completes events out) : events = [] := by
  induction future with
  | ready => exact complete.1
  | panicked => exact complete.elim
  | hand | blocking => exact outside.elim
  | wait resume ih =>
    obtain ⟨value, again⟩ := complete
    exact ih value (outside value) again

/-! ## What closures write -/

/-- Each closure leaves the store only as it may. -/
def Writes (Allowed : σ → σ → Prop) : Future σ ε ω α → Prop
  | ready _ | panicked => True
  | hand _ rest => rest.Writes Allowed
  | wait resume => ∀ value, (resume value).Writes Allowed
  | blocking closure resume =>
    (∀ met before, Allowed before (closure met before).2) ∧ ∀ value, (resume value).Writes Allowed

variable {Allowed : σ → σ → Prop}

theorem Writes.bind {first : Future σ ε ω α} {next : α → Future σ ε ω β} (writes : first.Writes Allowed)
    (rest : ∀ result, (next result).Writes Allowed) : (first.bind next).Writes Allowed := by
  induction first with
  | ready result => exact rest result
  | panicked => trivial
  | hand work rest ih => exact ih writes
  | wait resume ih => exact fun value => ih value (writes value)
  | blocking closure resume ih => exact ⟨writes.1, fun value => ih value (writes.2 value)⟩

theorem Outside.writes {future : Future σ ε ω α} (outside : future.Outside) : future.Writes Allowed := by
  induction future with
  | ready | panicked => trivial
  | hand | blocking => exact outside.elim
  | wait resume ih => exact fun value => ih value (outside value)

end Future

/-! ## Cancel safety -/

variable {σ ε ω α : Type}

/-- Every call has left the store as it was, or the work that its change calls for has been handed over. -/
def Accounted (Follows : σ → σ → ω → Prop) (events : List (Event σ ε ω)) : Prop :=
  ∀ met before after, .called met before after ∈ events →
    after = before ∨ ∃ work, .handed work ∈ events ∧ Follows before after work

end Droppable
