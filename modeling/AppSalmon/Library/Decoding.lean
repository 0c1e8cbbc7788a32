import Mathlib.Data.List.Forall2
import Mathlib.Data.List.Perm.Basic

/-! Decoding a list element by element, up to the first that fails. -/

set_option autoImplicit false

namespace Decoding

variable {α β ε : Type} {decode : α → Except ε β}

theorem mapM_eq_ok {rows : List α} {decoded : List β} :
    rows.mapM decode = .ok decoded ↔ List.Forall₂ (fun row value => decode row = .ok value) rows decoded := by
  induction rows generalizing decoded with
  | nil => simp [pure, Except.pure, eq_comm]
  | cons row rest ih =>
    rw [List.mapM_cons]
    constructor
    · intro ran
      cases head : decode row with
      | error stop => simp [head, bind, Except.bind] at ran
      | ok value =>
        cases tail : rest.mapM decode with
        | error stop => simp [head, tail, bind, Except.bind] at ran
        | ok values =>
          simp only [head, tail, bind, Except.bind, pure, Except.pure, Except.ok.injEq] at ran
          subst ran
          exact .cons head (ih.mp tail)
    · rintro (_ | ⟨head, tail⟩)
      rw [head, ih.mpr tail]
      rfl

/-- A list that was encoded element by element is read back exactly if every element is. -/
theorem mapM_encoded {encode : β → α} {values : List β} :
    (values.map encode).mapM decode = .ok values ↔ ∀ value ∈ values, decode (encode value) = .ok value := by
  rw [mapM_eq_ok, List.forall₂_map_left_iff, List.forall₂_same]

/-- Rows that decode one by one do so in any order. -/
theorem mapM_perm {left right : List α} (same : left.Perm right)
    {decoded : List β} (ran : left.mapM decode = .ok decoded) :
    ∃ other, right.mapM decode = .ok other ∧ decoded.Perm other := by
  obtain ⟨other, inOrder, perm⟩ := List.perm_comp_forall₂ same.symm (mapM_eq_ok.mp ran)
  exact ⟨other, mapM_eq_ok.mpr inOrder, perm.symm⟩

/-- A list that does not decode stops at one of its elements. -/
theorem mapM_error {rows : List α} {stop : ε} (failed : rows.mapM decode = .error stop) :
    ∃ row ∈ rows, decode row = .error stop := by
  induction rows with
  | nil => cases failed
  | cons row rest ih =>
    rw [List.mapM_cons] at failed
    cases head : decode row with
    | error other =>
      simp only [head, bind, Except.bind, Except.error.injEq] at failed
      exact ⟨row, List.mem_cons_self, failed ▸ head⟩
    | ok value =>
      cases tail : rest.mapM decode with
      | error other =>
        simp only [head, tail, bind, Except.bind, Except.error.injEq] at failed
        obtain ⟨later, member, same⟩ := ih (failed ▸ tail)
        exact ⟨later, List.mem_cons_of_mem _ member, same⟩
      | ok values => simp [head, tail, bind, Except.bind, pure, Except.pure] at failed

end Decoding
