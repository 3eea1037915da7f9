import Mathlib.Data.List.Perm.Basic

/-!
# Results in a row

A row of computations succeeds if all of them do, and fails as the first of them that fails.
-/

namespace GatewayProvisioning

variable {α β ε : Type} {f : α → Except ε β}

theorem ok_of_toOption {result : Except ε α} {x : α} (h : result.toOption = some x) :
    result = .ok x := by
  cases result with
  | error e => cases h
  | ok y => exact congrArg Except.ok (Option.some.inj h)

theorem exists_of_bind_eq_ok {result : Except ε α} {y : β} (h : result >>= f = .ok y) :
    ∃ x, result = .ok x ∧ f x = .ok y := by
  cases result with
  | error e => cases h
  | ok x => exact ⟨x, rfl, h⟩

theorem mapError_eq_ok {ε' : Type} {g : ε → ε'} {result : Except ε α} {x : α} :
    result.mapError g = .ok x ↔ result = .ok x := by
  cases result with
  | error e => exact ⟨fun h => (by cases h), fun h => (by cases h)⟩
  | ok y => exact ⟨fun h => (by cases h; rfl), fun h => (by cases h; rfl)⟩

theorem exists_of_mapError_eq_error {ε' : Type} {g : ε → ε'} {result : Except ε α} {e' : ε'}
    (h : result.mapError g = .error e') : ∃ e, result = .error e ∧ g e = e' := by
  cases result with
  | error e => exact ⟨e, rfl, Except.error.inj h⟩
  | ok x => cases h

theorem mapM_eq_ok_iff {xs : List α} {ys : List β} :
    xs.mapM f = .ok ys ↔ List.Forall₂ (fun x y => f x = .ok y) xs ys := by
  induction xs generalizing ys with
  | nil =>
    rw [List.mapM_nil, List.forall₂_nil_left_iff]
    exact ⟨fun h => (Except.ok.inj h).symm, fun h => h ▸ rfl⟩
  | cons x xs ih =>
    rw [List.mapM_cons]
    constructor
    · intro h
      rcases hx : f x with e | y
      · rw [hx] at h
        cases h
      · rcases hxs : xs.mapM f with e | rest
        · rw [hx, hxs] at h
          cases h
        · rw [hx, hxs] at h
          cases h
          exact .cons hx (ih.mp hxs)
    · rintro (_ | ⟨hx, hxs⟩)
      rw [hx, ih.mpr hxs]
      rfl

/-- A row succeeds only if all of its members do. -/
theorem exists_of_mapM_eq_ok {xs : List α} {ys : List β} (h : xs.mapM f = .ok ys) :
    ∀ x ∈ xs, ∃ y, f x = .ok y := by
  have hrow := mapM_eq_ok_iff.mp h
  induction hrow with
  | nil => simp
  | cons hx hxs ih => exact List.forall_mem_cons.mpr ⟨⟨_, hx⟩, ih (mapM_eq_ok_iff.mpr hxs)⟩

/-- Every result comes from a member. -/
theorem exists_of_mem_mapM {xs : List α} {ys : List β} (h : xs.mapM f = .ok ys) :
    ∀ y ∈ ys, ∃ x ∈ xs, f x = .ok y := by
  have hrow := mapM_eq_ok_iff.mp h
  induction hrow with
  | nil => simp
  | cons hx hxs ih =>
    intro y hy
    rcases List.mem_cons.mp hy with rfl | hy
    · exact ⟨_, List.mem_cons_self, hx⟩
    · obtain ⟨x, hmem, hfx⟩ := ih (mapM_eq_ok_iff.mpr hxs) y hy
      exact ⟨x, List.mem_cons_of_mem _ hmem, hfx⟩

/-- The failure of a row is that of the first member that fails. -/
theorem mapM_eq_error_iff {xs : List α} {e : ε} :
    xs.mapM f = .error e ↔ ∃ before x after, xs = before ++ x :: after ∧
      (∀ y ∈ before, ∃ z, f y = .ok z) ∧ f x = .error e := by
  induction xs with
  | nil =>
    constructor
    · intro h
      cases h
    · rintro ⟨before, x, after, hrow, -⟩
      simp at hrow
  | cons x xs ih =>
    rw [List.mapM_cons]
    rcases hx : f x with e' | z
    · constructor
      · intro h
        cases h
        exact ⟨[], x, xs, rfl, by simp, hx⟩
      · rintro ⟨before, y, after, hrow, hbefore, hy⟩
        -- nothing that succeeds comes before the first member
        rcases before with _ | ⟨first, before⟩
        · obtain ⟨rfl, rfl⟩ := List.cons.inj hrow
          rw [hx] at hy
          cases hy
          rfl
        · obtain ⟨rfl, rfl⟩ := List.cons.inj hrow
          obtain ⟨z, hz⟩ := hbefore x List.mem_cons_self
          rw [hx] at hz
          cases hz
    · have hrest : (f x >>= fun z => xs.mapM f >>= fun zs => pure (z :: zs)) = .error e ↔
          xs.mapM f = .error e := by
        rw [hx]
        rcases xs.mapM f with e' | zs
        · exact Iff.rfl
        · exact ⟨fun h => (by cases h), fun h => (by cases h)⟩
      rw [← hx, hrest, ih]
      constructor
      · rintro ⟨before, y, after, rfl, hbefore, hy⟩
        exact ⟨x :: before, y, after, rfl, List.forall_mem_cons.mpr ⟨⟨z, hx⟩, hbefore⟩, hy⟩
      · rintro ⟨before, y, after, hrow, hbefore, hy⟩
        rcases before with _ | ⟨first, before⟩
        · obtain ⟨rfl, rfl⟩ := List.cons.inj hrow
          rw [hx] at hy
          cases hy
        · obtain ⟨rfl, rfl⟩ := List.cons.inj hrow
          exact ⟨before, y, after, rfl, (List.forall_mem_cons.mp hbefore).2, hy⟩

/-- A row that succeeds does so in any order, with the same results. -/
theorem mapM_perm {xs xs' : List α} {ys : List β} (hperm : xs'.Perm xs) (h : xs.mapM f = .ok ys) :
    ∃ ys', xs'.mapM f = .ok ys' ∧ ys'.Perm ys := by
  obtain ⟨ys', hrow, hys⟩ := List.perm_comp_forall₂ hperm (mapM_eq_ok_iff.mp h)
  exact ⟨ys', mapM_eq_ok_iff.mpr hrow, hys⟩

end GatewayProvisioning
