import Mathlib.Data.List.Basic
import Mathlib.Data.List.Flatten
import Mathlib.Data.List.Pairwise
import Mathlib.Tactic.Common

/-! Tasks that share a state, and runs whose every step is allowed.

A step takes one task out of the pool and puts in the tasks it becomes. The
rules are of the Owicki–Gries kind: what the acting task establishes, and what
it leaves alone for the tasks beside it.
-/

set_option autoImplicit false

namespace TaskPool

variable {σ π δ ι : Type}

structure Pool (σ π : Type) where
  shared : σ
  tasks : List π

/-- The task at `index` gives way to the tasks it becomes. -/
def Pool.replace (pool : Pool σ π) (index : Nat) (shared : σ) (spawned : List π) : Pool σ π :=
  ⟨shared, pool.tasks.eraseIdx index ++ spawned⟩

/-- An invariant of the shared state, an assertion of each duty, and a relation between any two. -/
structure Holds (duties : π → List δ) (Global : σ → Prop) (Local : σ → δ → Prop) (Apart : δ → δ → Prop)
    (pool : Pool σ π) : Prop where
  shared : Global pool.shared
  each : ∀ task ∈ pool.tasks, ∀ duty ∈ duties task, Local pool.shared duty
  pairs : (pool.tasks.flatMap duties).Pairwise Apart

variable {duties : π → List δ} {Global Global' : σ → Prop} {Local Local' : σ → δ → Prop}
  {Apart Apart' : δ → δ → Prop} {pool : Pool σ π}

/-- The tasks beside the one at `index`. -/
theorem exists_of_mem_eraseIdx {tasks : List π} {index : Nat} {task other : π} (found : tasks[index]? = some task)
    (member : other ∈ tasks.eraseIdx index) :
    ∃ before after, tasks = before ++ task :: after ∧ (other ∈ before ∨ other ∈ after) := by
  obtain ⟨inside, rfl⟩ := List.getElem?_eq_some_iff.mp found
  rw [List.eraseIdx_eq_take_drop_succ] at member
  refine ⟨tasks.take index, tasks.drop (index + 1), ?_, List.mem_append.mp member⟩
  rw [← List.drop_eq_getElem_cons inside, List.take_append_drop]

theorem Holds.own (holds : Holds duties Global Local Apart pool) {index : Nat} {task : π}
    (found : pool.tasks[index]? = some task) :
    (∀ duty ∈ duties task, Local pool.shared duty) ∧ (duties task).Pairwise Apart := by
  have member := List.mem_of_getElem? found
  exact ⟨holds.each task member, (List.pairwise_flatMap.mp holds.pairs).1 task member⟩

/-- Every duty of the other tasks is apart from those of the one taken out. -/
theorem Holds.apart (symmetric : ∀ first second, Apart first second → Apart second first)
    (holds : Holds duties Global Local Apart pool) {index : Nat} {task other : π}
    (found : pool.tasks[index]? = some task) (member : other ∈ pool.tasks.eraseIdx index) {mine duty : δ}
    (isMine : mine ∈ duties task) (isOther : duty ∈ duties other) : Apart mine duty := by
  obtain ⟨before, after, split, side⟩ := exists_of_mem_eraseIdx found member
  have pairs := (List.pairwise_flatMap.mp holds.pairs).2
  rw [split, List.pairwise_append, List.pairwise_cons] at pairs
  obtain ⟨-, ⟨later, -⟩, earlier⟩ := pairs
  rcases side with left | right
  · exact symmetric _ _ (earlier other left task List.mem_cons_self duty isOther mine isMine)
  · exact later other right mine isMine duty isOther

/-- One step, from a relation that holds to one that is wanted: what the acting task establishes, and
what it leaves alone for the others. -/
theorem Holds.replace (symmetric : ∀ first second, Apart first second → Apart second first)
    (symmetric' : ∀ first second, Apart' first second → Apart' second first)
    (holds : Holds duties Global Local Apart pool) {index : Nat} {task : π} {shared : σ} {spawned : List π}
    (found : pool.tasks[index]? = some task) (global : Global' shared)
    (own : ∀ fresh ∈ spawned.flatMap duties, Local' shared fresh)
    (others : ∀ duty, Local pool.shared duty → (∀ mine ∈ duties task, Apart mine duty) → Local' shared duty)
    (between : ∀ first second, Apart first second → Apart' first second)
    (pairs : (spawned.flatMap duties).Pairwise Apart')
    (across : ∀ fresh ∈ spawned.flatMap duties, ∀ duty, Local pool.shared duty →
      (∀ mine ∈ duties task, Apart mine duty) → Apart' fresh duty) :
    Holds duties Global' Local' Apart' (pool.replace index shared spawned) := by
  have kept : ∀ other ∈ pool.tasks.eraseIdx index, ∀ duty ∈ duties other,
      Local pool.shared duty ∧ ∀ mine ∈ duties task, Apart mine duty :=
    fun other member duty inside => ⟨holds.each other (List.mem_of_mem_eraseIdx member) duty inside,
      fun mine isMine => holds.apart symmetric found member isMine inside⟩
  refine ⟨global, fun member inside duty theirs => ?_, ?_⟩
  · rcases List.mem_append.mp inside with old | new
    · exact others duty (kept member old duty theirs).1 (kept member old duty theirs).2
    · exact own duty (List.mem_flatMap.mpr ⟨member, new, theirs⟩)
  · rw [Pool.replace, List.flatMap_append]
    refine List.pairwise_append.mpr ⟨?_, pairs, ?_⟩
    · exact (holds.pairs.sublist ((List.eraseIdx_sublist ..).flatMap duties)).imp (between _ _)
    · intro duty old fresh new
      obtain ⟨other, member, theirs⟩ := List.mem_flatMap.mp old
      exact symmetric' _ _ (across fresh new duty (kept other member duty theirs).1 (kept other member duty theirs).2)

/-- New tasks join without a step of an old one. -/
theorem Holds.join (symmetric : ∀ first second, Apart first second → Apart second first)
    (holds : Holds duties Global Local Apart pool) {arrived : List π}
    (own : ∀ fresh ∈ arrived.flatMap duties, Local pool.shared fresh)
    (pairs : (arrived.flatMap duties).Pairwise Apart)
    (across : ∀ fresh ∈ arrived.flatMap duties, ∀ task ∈ pool.tasks, ∀ duty ∈ duties task, Apart fresh duty) :
    Holds duties Global Local Apart ⟨pool.shared, pool.tasks ++ arrived⟩ := by
  refine ⟨holds.shared, fun member inside duty theirs => ?_, ?_⟩
  · rcases List.mem_append.mp inside with old | new
    · exact holds.each member old duty theirs
    · exact own duty (List.mem_flatMap.mpr ⟨member, new, theirs⟩)
  · rw [List.flatMap_append]
    refine List.pairwise_append.mpr ⟨holds.pairs, pairs, fun duty old fresh new => ?_⟩
    obtain ⟨task, member, theirs⟩ := List.mem_flatMap.mp old
    exact symmetric _ _ (across fresh new task member duty theirs)

/-- A change of the shared state that every assertion survives. -/
theorem Holds.shift (holds : Holds duties Global Local Apart pool) {shared : σ} (global : Global' shared)
    (each : ∀ duty, Local pool.shared duty → Local' shared duty)
    (between : ∀ first second, Apart first second → Apart' first second) :
    Holds duties Global' Local' Apart' ⟨shared, pool.tasks⟩ :=
  ⟨global, fun task member duty theirs => each duty (holds.each task member duty theirs),
    holds.pairs.imp (between _ _)⟩

theorem Holds.and (first : Holds duties Global Local Apart pool) (second : Holds duties Global' Local' Apart' pool) :
    Holds duties (fun shared => Global shared ∧ Global' shared) (fun shared duty => Local shared duty ∧ Local' shared duty)
      (fun left right => Apart left right ∧ Apart' left right) pool :=
  ⟨⟨first.shared, second.shared⟩,
    fun task member duty theirs => ⟨first.each task member duty theirs, second.each task member duty theirs⟩,
    first.pairs.and second.pairs⟩

/-! ## Work that some task answers for -/

/-- Whatever the shared state still needs, some task of the pool covers. -/
def Covered (Need : σ → ι → Prop) (Covers : π → ι → Prop) (pool : Pool σ π) : Prop :=
  ∀ item, Need pool.shared item → ∃ task ∈ pool.tasks, Covers task item

theorem Covered.replace {Need : σ → ι → Prop} {Covers : π → ι → Prop} (covered : Covered Need Covers pool)
    {index : Nat} {task : π} {shared : σ} {spawned : List π} (found : pool.tasks[index]? = some task)
    (handed : ∀ item, Need shared item →
      (∃ fresh ∈ spawned, Covers fresh item) ∨ (Need pool.shared item ∧ ¬ Covers task item)) :
    Covered Need Covers (pool.replace index shared spawned) := by
  intro item needed
  rcases handed item needed with ⟨fresh, new, covers⟩ | ⟨before, uncovered⟩
  · exact ⟨fresh, List.mem_append_right _ new, covers⟩
  · obtain ⟨other, member, covers⟩ := covered item before
    obtain ⟨position, within, rfl⟩ := List.getElem_of_mem member
    have different : position ≠ index := by
      rintro rfl
      obtain ⟨inside, rfl⟩ := List.getElem?_eq_some_iff.mp found
      exact uncovered covers
    refine ⟨_, List.mem_append_left _ ?_, covers⟩
    exact List.mem_eraseIdx_iff_getElem?.mpr ⟨position, different, List.getElem?_eq_getElem within⟩

theorem Covered.join {Need : σ → ι → Prop} {Covers : π → ι → Prop} (covered : Covered Need Covers pool)
    (arrived : List π) : Covered Need Covers ⟨pool.shared, pool.tasks ++ arrived⟩ := by
  intro item needed
  obtain ⟨task, member, covers⟩ := covered item needed
  exact ⟨task, List.mem_append_left _ member, covers⟩

/-! ## Runs -/

variable {τ ℓ : Type}

/-- Runs of a partial transition function all of whose labels are allowed where they occur. -/
inductive Run (next : τ → ℓ → Option τ) (allowed : τ → ℓ → Prop) (start : τ) : τ → Prop where
  | refl : Run next allowed start start
  | step {state after : τ} (label : ℓ) (earlier : Run next allowed start state) (permitted : allowed state label)
      (moved : next state label = some after) : Run next allowed start after

variable {next : τ → ℓ → Option τ} {allowed : τ → ℓ → Prop} {start finish : τ}

theorem Run.invariant {Inv : τ → Prop} (run : Run next allowed start finish) (initial : Inv start)
    (preserved : ∀ state label after, Inv state → allowed state label → next state label = some after → Inv after) :
    Inv finish := by
  induction run with
  | refl => exact initial
  | step label earlier permitted moved ih => exact preserved _ label _ ih permitted moved

/-- A relation that every step from an invariant state satisfies relates the ends of every run. -/
theorem Run.related {Inv : τ → Prop} {Later : τ → τ → Prop} (run : Run next allowed start finish)
    (initial : Inv start)
    (preserved : ∀ state label after, Inv state → allowed state label → next state label = some after → Inv after)
    (reflexive : ∀ state, Later state state)
    (transitive : ∀ first second third, Later first second → Later second third → Later first third)
    (stepped : ∀ state label after, Inv state → allowed state label → next state label = some after →
      Later state after) : Later start finish := by
  induction run with
  | refl => exact reflexive start
  | step label earlier permitted moved ih =>
    exact transitive _ _ _ ih (stepped _ label _ (earlier.invariant initial preserved) permitted moved)

theorem Run.trans {middle : τ} (first : Run next allowed start middle) (second : Run next allowed middle finish) :
    Run next allowed start finish := by
  induction second with
  | refl => exact first
  | step label _ permitted moved ih => exact .step label ih permitted moved

theorem Run.weaken {weaker : τ → ℓ → Prop} (run : Run next allowed start finish)
    (implied : ∀ state label, allowed state label → weaker state label) : Run next weaker start finish := by
  induction run with
  | refl => exact .refl
  | step label _ permitted moved ih => exact .step label ih (implied _ _ permitted) moved

/-- What an invariant adds may be asked of the steps as well. -/
theorem Run.strengthen {Inv : τ → Prop} {stronger : τ → ℓ → Prop} (run : Run next allowed start finish) (initial : Inv start)
    (preserved : ∀ state label after, Inv state → allowed state label → next state label = some after → Inv after)
    (implied : ∀ state label, Inv state → allowed state label → stronger state label) : Run next stronger start finish := by
  induction run with
  | refl => exact .refl
  | step label earlier permitted moved ih =>
    exact .step label ih (implied _ _ (earlier.invariant initial preserved) permitted) moved

/-- A step somewhere on the way from one state to another. -/
def Happened (next : τ → ℓ → Option τ) (allowed : τ → ℓ → Prop) (Event : τ → ℓ → τ → Prop) (start finish : τ) : Prop :=
  ∃ before label after, Run next allowed start before ∧ allowed before label ∧ next before label = some after ∧
    Event before label after ∧ Run next allowed after finish

theorem Happened.later {Event : τ → ℓ → τ → Prop} (happened : Happened next allowed Event start finish) {label : ℓ}
    {last : τ} (permitted : allowed finish label) (moved : next finish label = some last) :
    Happened next allowed Event start last := by
  obtain ⟨before, event, after, earlier, allows, stepped, is, rest⟩ := happened
  exact ⟨before, event, after, earlier, allows, stepped, is, .step label rest permitted moved⟩

theorem Happened.last {Event : τ → ℓ → τ → Prop} (run : Run next allowed start finish) {label : ℓ} {last : τ}
    (permitted : allowed finish label) (moved : next finish label = some last) (event : Event finish label last) :
    Happened next allowed Event start last :=
  ⟨finish, label, last, run, permitted, moved, event, .refl⟩

/-- The state after a list of labels, all of them checked on the way. -/
def follow (next : τ → ℓ → Option τ) (check : τ → ℓ → Bool) (state : τ) : List ℓ → Option τ
  | [] => some state
  | label :: rest =>
    if check state label then (next state label).bind fun after => follow next check after rest else none

theorem run_of_follow {check : τ → ℓ → Bool} (labels : List ℓ) {state : τ}
    (followed : follow next check state labels = some finish) :
    Run next (fun state label => check state label = true) state finish := by
  induction labels generalizing state with
  | nil =>
    cases followed
    exact .refl
  | cons label rest ih =>
    rw [follow] at followed
    cases permitted : check state label with
    | false => simp [permitted] at followed
    | true =>
      cases moved : next state label with
      | none => simp [permitted, moved] at followed
      | some after =>
        simp only [permitted, moved, if_true, Option.bind_some] at followed
        exact (Run.step label .refl permitted moved).trans (ih followed)

/-- An invariant that may speak of the labels followed so far. -/
theorem follow_invariant {check : τ → ℓ → Bool} {Inv : List ℓ → τ → Prop} (initial : Inv [] start)
    (preserved : ∀ done state label after, Inv done state → check state label = true →
      next state label = some after → Inv (done ++ [label]) after)
    (labels : List ℓ) (followed : follow next check start labels = some finish) : Inv labels finish := by
  have from_ : ∀ (labels done : List ℓ) (state : τ), Inv done state → follow next check state labels = some finish →
      Inv (done ++ labels) finish := by
    intro labels
    induction labels with
    | nil =>
      intro done state holds followed
      cases followed
      rwa [List.append_nil]
    | cons label rest ih =>
      intro done state holds followed
      rw [follow] at followed
      cases permitted : check state label with
      | false => simp [permitted] at followed
      | true =>
        cases moved : next state label with
        | none => simp [permitted, moved] at followed
        | some after =>
          simp only [permitted, moved, if_true, Option.bind_some] at followed
          have whole := ih (done ++ [label]) after (preserved done state label after holds permitted moved) followed
          rwa [List.append_assoc, List.singleton_append] at whole
  exact from_ labels [] start initial followed

end TaskPool
