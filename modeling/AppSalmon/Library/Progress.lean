import AppSalmon.Library.TaskPool
import Mathlib.Data.Multiset.DershowitzManna

/-! Executions without end, and what comes of a pool whose tasks all get on.

A rank bounds how much a task still has before it. Whatever waits for a goal gets
there if some task that waits is always answered and leaves only tasks of lower
rank to wait in its place. Where a weight of the whole pool never rises and some
tasks lower it, none of these is left in the end.
-/

set_option autoImplicit false

namespace TaskPool

variable {σ π ι ρ τ ℓ : Type}

/-- An execution without end. -/
structure Execution (next : τ → ℓ → Option τ) (allowed : τ → ℓ → Prop) (start : τ) where
  state : Nat → τ
  label : Nat → ℓ
  starts : state 0 = start
  permitted : ∀ time, allowed (state time) (label time)
  moves : ∀ time, next (state time) (label time) = some (state (time + 1))

namespace Execution

variable {next : τ → ℓ → Option τ} {allowed : τ → ℓ → Prop} {start : τ}

theorem run (execution : Execution next allowed start) (time : Nat) : Run next allowed start (execution.state time) := by
  induction time with
  | zero =>
    rw [execution.starts]
    exact .refl
  | succ time ih => exact .step (execution.label time) ih (execution.permitted time) (execution.moves time)

/-- What a step keeps, once it holds, holds from then on. -/
theorem stays (execution : Execution next allowed start) (Holds : τ → Prop)
    (kept : ∀ time, Holds (execution.state time) → Holds (execution.state (time + 1))) {time later : Nat}
    (after : time ≤ later) (holds : Holds (execution.state time)) : Holds (execution.state later) := by
  induction later, after using Nat.le_induction with
  | base => exact holds
  | succ later _ ih => exact kept later ih

/-! ### A finite run, and a cycle over and over after it -/

/-- The state after so many of the labels. -/
def along (next : τ → ℓ → Option τ) (check : τ → ℓ → Bool) (start : τ) (labels : List ℓ) (time : Nat) : τ :=
  (follow next check start (labels.take time)).getD start

variable {labels cycle : List ℓ} {check : τ → ℓ → Bool} {finish : τ}

theorem follow_cons {state : τ} {label : ℓ} {rest : List ℓ}
    (followed : follow next check state (label :: rest) = some finish) :
    check state label = true ∧ ∃ after, next state label = some after ∧ follow next check after rest = some finish := by
  rw [follow] at followed
  split at followed
  · next checked => exact ⟨checked, Option.bind_eq_some_iff.mp followed⟩
  · cases followed

@[simp] theorem along_zero : along next check start labels 0 = start := by
  rw [along, List.take_zero, follow, Option.getD_some]

theorem along_end (followed : follow next check start labels = some finish) :
    along next check start labels labels.length = finish := by
  rw [along, List.take_length, followed, Option.getD_some]

/-- A run that was followed can be followed up to any of its states. -/
theorem follow_take (followed : follow next check start labels = some finish) {time : Nat} (within : time ≤ labels.length) :
    follow next check start (labels.take time) = some (along next check start labels time) := by
  rw [along]
  suffices some_state : ∃ state, follow next check start (labels.take time) = some state by
    obtain ⟨state, here⟩ := some_state
    rw [here, Option.getD_some]
  induction labels generalizing start time with
  | nil => exact ⟨start, by simp [follow]⟩
  | cons label rest ih =>
    cases time with
    | zero => exact ⟨start, by simp [follow]⟩
    | succ time =>
      obtain ⟨checked, after, moved, goesOn⟩ := follow_cons followed
      obtain ⟨state, here⟩ := ih goesOn (Nat.le_of_succ_le_succ within)
      exact ⟨state, by simp [follow, checked, moved, here]⟩

theorem along_step (followed : follow next check start labels = some finish) {time : Nat} (within : time < labels.length) :
    check (along next check start labels time) labels[time] = true ∧
      next (along next check start labels time) labels[time] = some (along next check start labels (time + 1)) := by
  induction labels generalizing start time with
  | nil => simp at within
  | cons label rest ih =>
    obtain ⟨checked, after, moved, goesOn⟩ := follow_cons followed
    have onward (time : Nat) (within : time ≤ rest.length) :
        along next check start (label :: rest) (time + 1) = along next check after rest time := by
      rw [along, List.take_succ_cons, follow, if_pos checked, moved, Option.bind_some, follow_take goesOn within,
        Option.getD_some]
    cases time with
    | zero =>
      rw [along_zero, onward 0 (Nat.zero_le _), along_zero]
      exact ⟨checked, moved⟩
    | succ time =>
      have inside := Nat.lt_of_succ_lt_succ within
      rw [onward time (Nat.le_of_lt inside), onward (time + 1) inside]
      exact ih goesOn inside

/-- A finite run that was followed goes on for good where a cycle leads back to its end. -/
theorem exists_of_follow (followed : follow next check start labels = some finish)
    (around : follow next check finish cycle = some finish) (goesOn : 0 < cycle.length)
    (sound : ∀ state label, check state label = true → allowed state label) :
    ∃ execution : Execution next allowed start,
      (∀ time ≤ labels.length, follow next check start (labels.take time) = some (execution.state time)) ∧
      (∀ time ≥ labels.length, execution.label time ∈ cycle) ∧
      ∀ time, check (execution.state time) (execution.label time) = true := by
  let turn (time : Nat) : Nat := (time - labels.length) % cycle.length
  have turns (time : Nat) : turn time < cycle.length := Nat.mod_lt _ goesOn
  let state (time : Nat) : τ :=
    if time < labels.length then along next check start labels time else along next check finish cycle (turn time)
  let label (time : Nat) : ℓ := if inside : time < labels.length then labels[time] else cycle.get ⟨turn time, turns time⟩
  have ends : state labels.length = finish := by simp [state, turn]
  have steps (time : Nat) : check (state time) (label time) = true ∧ next (state time) (label time) = some (state (time + 1)) := by
    by_cases inside : time < labels.length
    · have here : state time = along next check start labels time := if_pos inside
      have same : label time = labels[time] := dif_pos inside
      have later : state (time + 1) = along next check start labels (time + 1) := by
        by_cases last : time + 1 < labels.length
        · exact if_pos last
        · have reached : time + 1 = labels.length := by omega
          rw [reached, ends, along_end followed]
      rw [here, same, later]
      exact along_step followed inside
    · have here : state time = along next check finish cycle (turn time) := if_neg inside
      have same : label time = cycle.get ⟨turn time, turns time⟩ := dif_neg inside
      have beyond : ¬ time + 1 < labels.length := by omega
      have later : state (time + 1) = along next check finish cycle (turn time + 1) := by
        have there : state (time + 1) = along next check finish cycle (turn (time + 1)) := if_neg beyond
        have counts : turn (time + 1) = (turn time + 1) % cycle.length := by
          have after : time + 1 - labels.length = time - labels.length + 1 := by omega
          simp only [turn, after, Nat.mod_add_mod]
        rw [there, counts]
        rcases Nat.lt_or_ge (turn time + 1) cycle.length with within | last
        · rw [Nat.mod_eq_of_lt within]
        · have full : turn time + 1 = cycle.length := Nat.le_antisymm (turns time) last
          rw [full, Nat.mod_self, along_zero, along_end around]
      rw [here, same, later]
      exact along_step around (turns time)
  have first : state 0 = start := by
    rcases Nat.eq_zero_or_pos labels.length with none_there | some_there
    · have same := along_end followed
      rw [none_there, along_zero] at same
      rw [none_there] at ends
      exact ends.trans same.symm
    · exact (if_pos some_there).trans along_zero
  have within (time : Nat) (inside : time ≤ labels.length) : follow next check start (labels.take time) = some (state time) := by
    rcases Nat.lt_or_eq_of_le inside with earlier | rfl
    · have here : state time = along next check start labels time := if_pos earlier
      rw [here]
      exact follow_take followed inside
    · rw [List.take_length, ends, followed]
  refine ⟨⟨state, label, first, fun time => sound _ _ (steps time).1, fun time => (steps time).2⟩, within,
    fun time beyond => ?_, fun time => (steps time).1⟩
  have same : label time = cycle.get ⟨turn time, turns time⟩ := dif_neg (Nat.not_lt.mpr beyond)
  simp only [same]
  exact List.getElem_mem _

end Execution

/-- Whatever waits at some rank comes to the goal, if it always comes there or to a lower rank. -/
theorem reached_of_ranked {Below : ρ → ρ → Prop} (founded : WellFounded Below) {Waits : Nat → ρ → Prop}
    {Goal : Nat → Prop} (progress : ∀ time rank, Waits time rank →
      ∃ later ≥ time, Goal later ∨ ∃ lower, Below lower rank ∧ Waits later lower)
    {time : Nat} {rank : ρ} (waits : Waits time rank) : ∃ later ≥ time, Goal later := by
  induction rank using founded.induction generalizing time with
  | h rank ih =>
    obtain ⟨later, after, reached | ⟨lower, below, waiting⟩⟩ := progress time rank waits
    · exact ⟨later, after, reached⟩
    · obtain ⟨last, beyond, reached⟩ := ih lower below waiting
      exact ⟨last, Nat.le_trans after beyond, reached⟩

/-- Some task of the given rank covers the item. -/
def CoveredAt (Covers : π → ι → Prop) (rank : π → ρ) (item : ι) (pool : Pool σ π) (low : ρ) : Prop :=
  ∃ task ∈ pool.tasks, Covers task item ∧ rank task = low

/-- What is needed and covered comes to its end, if every task that covers it is answered at last, and then leaves it
to a task of lower rank. -/
theorem covered_ends [LT ρ] [WellFoundedLT ρ] {pool : Nat → Pool σ π} {Acts : Nat → π → Prop} {Need : σ → ι → Prop}
    {Covers : π → ι → Prop} (rank : π → ρ) (covered : ∀ time, Covered Need Covers (pool time))
    (fair : ∀ time, ∀ task ∈ (pool time).tasks, ∃ later ≥ time, Acts later task)
    (handed : ∀ time task item, Acts time task → Covers task item → Need (pool (time + 1)).shared item →
      ∃ fresh ∈ (pool (time + 1)).tasks, Covers fresh item ∧ rank fresh < rank task)
    (time : Nat) (item : ι) : ∃ later ≥ time, ¬ Need (pool later).shared item := by
  by_cases needed : Need (pool time).shared item
  · obtain ⟨task, member, covers⟩ := covered time item needed
    have progress : ∀ time low, CoveredAt Covers rank item (pool time) low →
        ∃ later ≥ time, ¬ Need (pool later).shared item ∨
          ∃ lower, lower < low ∧ CoveredAt Covers rank item (pool later) lower := by
      rintro time _ ⟨task, member, covers, rfl⟩
      obtain ⟨later, after, acts⟩ := fair time task member
      refine ⟨later + 1, Nat.le_succ_of_le after, ?_⟩
      by_cases still : Need (pool (later + 1)).shared item
      · obtain ⟨fresh, left, hands, below⟩ := handed later task item acts covers still
        exact .inr ⟨rank fresh, below, fresh, left, hands, rfl⟩
      · exact .inl still
    exact reached_of_ranked wellFounded_lt progress ⟨task, member, covers, rfl⟩
  · exact ⟨time, Nat.le_refl time, needed⟩

/-! ### Weights -/

/-- What never rises stays the same from some time on. -/
theorem settles {Below : ρ → ρ → Prop} (founded : WellFounded Below) {weight : Nat → ρ} {start : Nat}
    (steps : ∀ time ≥ start, weight (time + 1) = weight time ∨ Below (weight (time + 1)) (weight time)) :
    ∃ rest ≥ start, ∀ time ≥ rest, weight (time + 1) = weight time := by
  have reached (low : ρ) : ∀ time ≥ start, weight time = low → ∃ rest ≥ time, ∀ later ≥ rest, weight (later + 1) = weight later := by
    induction low using founded.induction with
    | h low ih =>
      rintro time begun rfl
      by_cases still : ∀ later ≥ time, weight (later + 1) = weight later
      · exact ⟨time, Nat.le_refl time, still⟩
      · have falls : ∃ later ≥ time, Below (weight (later + 1)) (weight time) := by
          by_contra none_falls
          -- as long as nothing falls, everything is as it was
          have same : ∀ later ≥ time, weight later = weight time := by
            intro later after
            induction later, after using Nat.le_induction with
            | base => rfl
            | succ later after same =>
              rcases steps later (Nat.le_trans begun after) with kept | lower
              · exact kept.trans same
              · exact absurd ⟨later, after, same ▸ lower⟩ none_falls
          exact still fun later after => (same (later + 1) (Nat.le_succ_of_le after)).trans (same later after).symm
        obtain ⟨later, after, lower⟩ := falls
        have beyond := Nat.le_succ_of_le after
        obtain ⟨rest, past, settled⟩ := ih _ lower (later + 1) (Nat.le_trans begun beyond) rfl
        exact ⟨rest, Nat.le_trans beyond past, settled⟩
  obtain ⟨rest, after, settled⟩ := reached _ start (Nat.le_refl start) rfl
  exact ⟨rest, after, settled⟩

/-- Where every task is answered at last, those that lower a weight that never rises are gone from some time on. -/
theorem pool_quiets {Below : ρ → ρ → Prop} (founded : WellFounded Below) (weight : Nat → ρ) {pool : Nat → Pool σ π}
    {Acts : Nat → π → Prop} {Busy : π → Prop} {start : Nat}
    (fair : ∀ time, ∀ task ∈ (pool time).tasks, ∃ later ≥ time, Acts later task)
    (steps : ∀ time ≥ start, weight (time + 1) = weight time ∨ Below (weight (time + 1)) (weight time))
    (acts : ∀ time ≥ start, ∀ task, Acts time task → Busy task → Below (weight (time + 1)) (weight time)) :
    ∃ rest ≥ start, ∀ time ≥ rest, ∀ task ∈ (pool time).tasks, ¬ Busy task := by
  obtain ⟨rest, begun, settled⟩ := settles founded steps
  refine ⟨rest, begun, fun time after task member busy => ?_⟩
  obtain ⟨later, beyond, answered⟩ := fair time task member
  have past := Nat.le_trans after beyond
  have lower := acts later (Nat.le_trans begun past) task answered busy
  rw [settled later past] at lower
  exact founded.asymmetric _ _ lower lower

/-- What is new is below something of what it takes the place of. -/
theorem falls_of_below [Preorder ρ] {before after : Multiset ρ} (common fresh old : Multiset ρ)
    (later : after = common + fresh) (earlier : before = common + old) (some_old : old ≠ 0)
    (below : ∀ low ∈ fresh, ∃ high ∈ old, low < high) : after.IsDershowitzMannaLT before :=
  ⟨common, fresh, old, some_old, later, earlier, below⟩

end TaskPool
