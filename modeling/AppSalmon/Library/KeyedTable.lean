import Mathlib.Data.List.Basic
import Mathlib.Data.List.Forall2
import Mathlib.Data.List.Nodup
import Mathlib.Tactic.Common

/-! Tables as lists of records that carry their own key.

Every lookup takes the first record with the key. Replacement and removal act
on all of them, which is the same thing in a table whose keys are distinct.
-/

set_option autoImplicit false

namespace KeyedTable

variable {α β κ ι : Type} [DecidableEq κ] [DecidableEq ι]

def lookup (key : α → κ) (table : List α) (k : κ) : Option α := table.find? fun row => key row = k

def update (key : α → κ) (table : List α) (k : κ) (change : α → α) : List α :=
  table.map fun row => if key row = k then change row else row

def remove (key : α → κ) (table : List α) (k : κ) : List α := table.filter fun row => key row ≠ k

def Distinct (key : α → κ) (table : List α) : Prop := (table.map key).Nodup

variable {key : α → κ} {table : List α} {k other : κ} {row : α} {change : α → α}

theorem lookup_eq_some (found : lookup key table k = some row) : row ∈ table ∧ key row = k :=
  ⟨List.mem_of_find?_eq_some found, by simpa using List.find?_some found⟩

theorem lookup_eq_none : lookup key table k = none ↔ ∀ row ∈ table, key row ≠ k := by
  simp [lookup]

theorem lookup_isSome_of_mem (member : row ∈ table) : ∃ found, lookup key table (key row) = some found := by
  cases missing : lookup key table (key row) with
  | some found => exact ⟨found, rfl⟩
  | none => exact absurd rfl (lookup_eq_none.mp missing row member)

@[simp] theorem lookup_nil : lookup key [] k = none := rfl

theorem lookup_cons (head : α) (tail : List α) :
    lookup key (head :: tail) k = if key head = k then some head else lookup key tail k := by
  by_cases same : key head = k <;> simp [lookup, same]

theorem lookup_append_row :
    lookup key (table ++ [row]) k = (lookup key table k).or (if key row = k then some row else none) := by
  by_cases same : key row = k <;> simp [lookup, List.find?_append, same]

/-- In a table with distinct keys, membership is lookup. -/
theorem Distinct.lookup_of_mem (distinct : Distinct key table) (member : row ∈ table) :
    lookup key table (key row) = some row := by
  obtain ⟨found, here⟩ : ∃ found, lookup key table (key row) = some found := lookup_isSome_of_mem member
  obtain ⟨stored, same⟩ := lookup_eq_some here
  rw [here, List.inj_on_of_nodup_map distinct stored member same]

theorem Distinct.mem_iff (distinct : Distinct key table) :
    row ∈ table ↔ lookup key table (key row) = some row :=
  ⟨distinct.lookup_of_mem, fun found => (lookup_eq_some found).1⟩

omit [DecidableEq κ] in
theorem Distinct.eq_of_mem (distinct : Distinct key table) {first second : α} (left : first ∈ table)
    (right : second ∈ table) (same : key first = key second) : first = second :=
  List.inj_on_of_nodup_map distinct left right same

/-! ## Updating -/

/-- A projection that the change leaves alone is unchanged over the whole table. -/
theorem map_update {view : α → β} (kept : ∀ row, key row = k → view (change row) = view row) :
    (update key table k change).map view = table.map view := by
  simp only [update, List.map_map]
  refine List.map_congr_left fun row _ => ?_
  by_cases same : key row = k
  · simp [same, kept row same]
  · simp [same]

theorem Distinct.update (distinct : Distinct key table) (kept : ∀ row, key (change row) = key row) :
    Distinct key (update key table k change) := by
  rw [Distinct, map_update fun row _ => kept row]
  exact distinct

theorem mem_update : row ∈ update key table k change ↔
    ∃ old ∈ table, row = if key old = k then change old else old := by
  simp only [update, List.mem_map, eq_comm]

theorem lookup_update (kept : ∀ row, key (change row) = key row) :
    lookup key (update key table k change) other =
      if other = k then (lookup key table k).map change else lookup key table other := by
  induction table with
  | nil => simp [update]
  | cons head tail ih =>
    simp only [update, List.map_cons] at ih ⊢
    rw [lookup_cons, lookup_cons, lookup_cons, ih]
    by_cases here : key head = k
    · by_cases asked : other = k
      · simp [here, asked, kept]
      · simp [here, asked, kept, Ne.symm asked]
    · by_cases asked : other = k
      · subst asked
        simp [here]
      · simp [here, asked]

theorem update_eq_self_iff : update key table k change = table ↔ ∀ row ∈ table, key row = k → change row = row := by
  have pointwise : table.map (fun row => if key row = k then change row else row) = table.map id ↔
      ∀ row ∈ table, (if key row = k then change row else row) = id row := List.map_inj_left
  rw [List.map_id] at pointwise
  refine pointwise.trans (forall₂_congr fun row member => ?_)
  by_cases here : key row = k <;> simp [here]

/-! ## Removing -/

theorem lookup_remove :
    lookup key (remove key table k) other = if other = k then none else lookup key table other := by
  induction table with
  | nil => simp [remove]
  | cons head tail ih =>
    simp only [remove] at ih ⊢
    by_cases here : key head = k
    · rw [List.filter_cons_of_neg (by simp [here]), ih, lookup_cons]
      by_cases asked : other = k
      · simp [asked]
      · simp [asked, here, Ne.symm asked]
    · rw [List.filter_cons_of_pos (by simp [here]), lookup_cons, lookup_cons, ih]
      by_cases asked : other = k
      · subst asked
        simp [here]
      · simp [asked]

theorem mem_remove : row ∈ remove key table k ↔ row ∈ table ∧ key row ≠ k := by
  simp [remove]

theorem remove_sublist : (remove key table k).Sublist table := List.filter_sublist

omit [DecidableEq κ] in
theorem Distinct.sublist {part : List α} (distinct : Distinct key table) (inside : part.Sublist table) :
    Distinct key part := (inside.map key).nodup distinct

theorem Distinct.remove (distinct : Distinct key table) : Distinct key (remove key table k) :=
  distinct.sublist remove_sublist

/-- A row that is kept, changed or dropped with its key left alone is found by that key. -/
theorem Distinct.lookup_filterMap {keep : α → Option α} (distinct : Distinct key table) (member : row ∈ table)
    (kept : ∀ old new, keep old = some new → key new = key old) :
    lookup key (table.filterMap keep) (key row) = keep row := by
  induction table with
  | nil => cases member
  | cons head tail ih =>
    have others : ∀ other ∈ tail, key other ≠ key head := fun other inside same =>
      (List.nodup_cons.mp distinct).1 (same ▸ List.mem_map_of_mem inside)
    have rest : Distinct key tail := (List.nodup_cons.mp distinct).2
    rcases List.mem_cons.mp member with rfl | later
    · cases same : keep row with
      | some new =>
        rw [List.filterMap_cons_some same, lookup_cons, if_pos (kept row new same)]
      | none =>
        rw [List.filterMap_cons_none same, lookup_eq_none]
        intro new inside
        obtain ⟨old, stored, made⟩ := List.mem_filterMap.mp inside
        rw [kept old new made]
        exact others old stored
    · cases same : keep head with
      | some new =>
        rw [List.filterMap_cons_some same, lookup_cons, if_neg, ih rest later]
        rw [kept head new same]
        exact (others row later).symm
      | none => rw [List.filterMap_cons_none same, ih rest later]

/-! ## Adding -/

theorem Distinct.append_row (distinct : Distinct key table) (fresh : lookup key table (key row) = none) :
    Distinct key (table ++ [row]) := by
  rw [Distinct, List.map_append, List.nodup_append]
  refine ⟨distinct, by simp, ?_⟩
  intro used member new isNew same
  obtain ⟨old, stored, rfl⟩ := List.mem_map.mp member
  rw [List.map_singleton, List.mem_singleton] at isNew
  exact lookup_eq_none.mp fresh old stored (same.trans isNew)

/-! ## One row among others -/

section
variable {before after : List α}

omit [DecidableEq κ] in
theorem Distinct.others (distinct : Distinct key (before ++ row :: after)) :
    (∀ other ∈ before, key other ≠ key row) ∧ ∀ other ∈ after, key other ≠ key row := by
  simp only [Distinct, List.map_append, List.map_cons, List.nodup_append, List.nodup_cons] at distinct
  obtain ⟨-, ⟨fresh, -⟩, earlier⟩ := distinct
  constructor
  · intro other member
    exact earlier _ (List.mem_map_of_mem member) _ List.mem_cons_self
  · intro other member same
    exact fresh (same ▸ List.mem_map_of_mem member)

variable (change) in
theorem update_missing (missing : ∀ other ∈ table, key other ≠ k) : update key table k change = table :=
  update_eq_self_iff.mpr fun other member same => (missing other member same).elim

variable (change) in
theorem update_at (distinct : Distinct key (before ++ row :: after)) :
    update key (before ++ row :: after) (key row) change = before ++ change row :: after := by
  obtain ⟨earlier, later⟩ := distinct.others
  have left := update_missing change earlier
  have right := update_missing change later
  simp only [update] at left right ⊢
  rw [List.map_append, List.map_cons, left, right, if_pos rfl]

theorem remove_at (distinct : Distinct key (before ++ row :: after)) :
    remove key (before ++ row :: after) (key row) = before ++ after := by
  obtain ⟨earlier, later⟩ := distinct.others
  have left : before.filter (fun other => key other ≠ key row) = before := List.filter_eq_self.mpr (by simpa using earlier)
  have right : after.filter (fun other => key other ≠ key row) = after := List.filter_eq_self.mpr (by simpa using later)
  rw [remove, List.filter_append, List.filter_cons_of_neg (by simp), left, right]

theorem lookup_at (distinct : Distinct key (before ++ row :: after)) :
    lookup key (before ++ row :: after) (key row) = some row :=
  distinct.lookup_of_mem (List.mem_append_right _ List.mem_cons_self)

end

/-! ## Views of a table

A table is a refinement of another when a view turns each row into the other's
row and commutes with the keys.
-/

theorem lookup_map {view : α → β} {keyOf : β → ι} {name : κ → ι} (injective : ∀ first second, name first = name second → first = second)
    (keyed : ∀ row, keyOf (view row) = name (key row)) :
    lookup keyOf (table.map view) (name k) = (lookup key table k).map view := by
  rw [lookup, List.find?_map, lookup]
  congr 2
  funext row
  simp only [Function.comp_apply, keyed, decide_eq_decide]
  exact ⟨fun same => injective _ _ same, fun same => by rw [same]⟩

theorem update_map {view : α → β} {keyOf : β → ι} {name : κ → ι} {changed : β → β} (injective : ∀ first second, name first = name second → first = second)
    (keyed : ∀ row, keyOf (view row) = name (key row))
    (simulates : ∀ row ∈ table, key row = k → changed (view row) = view (change row)) :
    update keyOf (table.map view) (name k) changed = (update key table k change).map view := by
  simp only [update, List.map_map]
  refine List.map_congr_left fun row member => ?_
  by_cases same : key row = k
  · simp [keyed, same, simulates row member same]
  · have differs : name (key row) ≠ name k := fun equal => same (injective _ _ equal)
    simp [keyed, same, differs]

theorem remove_map {view : α → β} {keyOf : β → ι} {name : κ → ι} (injective : ∀ first second, name first = name second → first = second)
    (keyed : ∀ row, keyOf (view row) = name (key row)) :
    remove keyOf (table.map view) (name k) = (remove key table k).map view := by
  rw [remove, List.filter_map, remove]
  congr 2
  funext row
  simp only [Function.comp_apply, keyed, decide_not, Bool.not_eq_eq_eq_not, Bool.not_not, decide_eq_decide]
  exact ⟨fun same => injective _ _ same, fun same => by rw [same]⟩

/-! ## Related tables

The same, where a row of one table only stands in a relation to the row of the
other: many texts may be read as one record.
-/

section
variable {Rel : α → β → Prop} {keyOf : β → ι} {name : ι → κ} {concrete : List α} {plain : List β} {wanted : ι}

omit [DecidableEq κ] [DecidableEq ι] in
theorem related_none {found : Option α} (related : Option.Rel Rel found none) : found = none := by
  cases related
  rfl

omit [DecidableEq κ] [DecidableEq ι] in
theorem related_some {found : Option α} {record : β} (related : Option.Rel Rel found (some record)) :
    ∃ row, found = some row ∧ Rel row record := by
  cases related with
  | some here => exact ⟨_, rfl, here⟩

omit [DecidableEq κ] [DecidableEq ι] in
theorem find?_related {test : α → Bool} {check : β → Bool}
    (same : ∀ row record, Rel row record → (test row = true ↔ check record = true))
    (related : List.Forall₂ Rel concrete plain) : Option.Rel Rel (concrete.find? test) (plain.find? check) := by
  induction related with
  | nil => exact .none
  | @cons row record rows records here rest ih =>
    rw [List.find?_cons, List.find?_cons, Bool.eq_iff_iff.mpr (same row record here)]
    cases check record with
    | true => exact .some here
    | false => exact ih

theorem lookup_related (injective : ∀ first second, name first = name second → first = second)
    (keyed : ∀ row record, Rel row record → key row = name (keyOf record)) (related : List.Forall₂ Rel concrete plain) :
    Option.Rel Rel (lookup key concrete (name wanted)) (lookup keyOf plain wanted) := by
  apply find?_related _ related
  intro row record here
  rw [keyed row record here]
  simp only [decide_eq_true_eq]
  exact ⟨injective _ _, congrArg name⟩

theorem update_related {rewrite : β → β} (injective : ∀ first second, name first = name second → first = second)
    (keyed : ∀ row record, Rel row record → key row = name (keyOf record)) (related : List.Forall₂ Rel concrete plain)
    (simulates : ∀ row record, record ∈ plain → Rel row record → keyOf record = wanted →
      Rel (change row) (rewrite record)) :
    List.Forall₂ Rel (update key concrete (name wanted) change) (update keyOf plain wanted rewrite) := by
  induction related with
  | nil => exact .nil
  | @cons row record rows records here rest ih =>
    have same : key row = name wanted ↔ keyOf record = wanted := by
      rw [keyed row record here]
      exact ⟨injective _ _, congrArg name⟩
    simp only [update, List.map_cons] at ih ⊢
    constructor
    · by_cases asked : keyOf record = wanted
      · rw [if_pos asked, if_pos (same.mpr asked)]
        exact simulates row record List.mem_cons_self here asked
      · rw [if_neg asked, if_neg (mt same.mp asked)]
        exact here
    · apply ih
      intro row record member
      exact simulates row record (List.mem_cons_of_mem _ member)

theorem remove_related (injective : ∀ first second, name first = name second → first = second)
    (keyed : ∀ row record, Rel row record → key row = name (keyOf record)) (related : List.Forall₂ Rel concrete plain) :
    List.Forall₂ Rel (remove key concrete (name wanted)) (remove keyOf plain wanted) := by
  apply List.rel_filter _ related
  intro row record here
  have same : key row = name wanted ↔ keyOf record = wanted := by
    rw [keyed row record here]
    exact ⟨injective _ _, congrArg name⟩
  simpa using not_congr same

end

end KeyedTable
