/-
# CodeRetrieval.Proofs.FirstFailure — going through a list until something fails.

A function that may fail is applied to one entry after the other.  The run succeeds with all results, or
it fails as the first entry does whose result is a failure.  The entries behind that one do not count.
-/
import Mathlib.Data.List.Basic

namespace CodeRetrieval

variable {ε α β : Type} {f g : α → Except ε β} {x : α} {failure : ε}

theorem mapM_cons_of_ok {y : β} (h : f x = .ok y) (rest : List α) :
    (x :: rest).mapM f = (rest.mapM f).map (y :: ·) := by
  rw [List.mapM_cons, h]
  cases rest.mapM f <;> rfl

theorem mapM_cons_of_error (h : f x = .error failure) (rest : List α) :
    (x :: rest).mapM f = .error failure := by
  rw [List.mapM_cons, h]
  rfl

/-- The run succeeds with the results of all entries. -/
theorem mapM_eq_ok_iff {xs : List α} {ys : List β} :
    xs.mapM f = .ok ys ↔ xs.map f = ys.map .ok := by
  induction xs generalizing ys with
  | nil => cases ys <;> simp [pure, Except.pure]
  | cons x rest ih =>
      cases h : f x with
      | error failure =>
          rw [mapM_cons_of_error h, List.map_cons, h]
          cases ys <;> simp
      | ok y =>
          rw [mapM_cons_of_ok h, List.map_cons, h]
          cases ys with
          | nil => cases rest.mapM f <;> simp [Except.map]
          | cons first others =>
              rw [List.map_cons, List.cons.injEq, Except.ok.injEq, ← ih]
              cases rest.mapM f <;> simp [Except.map]

/-- It fails with the failure of the first entry that fails. -/
theorem mapM_eq_error_iff {xs : List α} :
    xs.mapM f = .error failure ↔
      ∃ front failing back, xs = front ++ failing :: back ∧
        (∀ x ∈ front, ∃ y, f x = .ok y) ∧ f failing = .error failure := by
  induction xs with
  | nil => simp [pure, Except.pure]
  | cons x rest ih =>
      constructor
      · intro h
        cases hx : f x with
        | error found =>
            rw [mapM_cons_of_error hx, Except.error.injEq] at h
            exact ⟨[], x, rest, rfl, by simp, h ▸ hx⟩
        | ok y =>
            have hrest : rest.mapM f = .error failure := by
              rw [mapM_cons_of_ok hx] at h
              cases hrest : rest.mapM f with
              | error => rwa [hrest] at h
              | ok => simp [hrest, Except.map] at h
            obtain ⟨front, failing, back, rfl, hfront, hfailing⟩ := ih.mp hrest
            refine ⟨x :: front, failing, back, rfl, ?_, hfailing⟩
            exact List.forall_mem_cons.mpr ⟨⟨y, hx⟩, hfront⟩
      · rintro ⟨front, failing, back, hxs, hfront, hfailing⟩
        cases front with
        | nil =>
            obtain ⟨rfl, rfl⟩ := List.cons.inj hxs
            exact mapM_cons_of_error hfailing _
        | cons first front =>
            obtain ⟨rfl, hrest⟩ := List.cons.inj hxs
            rw [List.forall_mem_cons] at hfront
            obtain ⟨⟨y, hy⟩, hfront⟩ := hfront
            rw [mapM_cons_of_ok hy, ih.mpr ⟨front, failing, back, hrest, hfront, hfailing⟩]
            rfl

theorem mapM_congr {xs : List α} (h : ∀ x ∈ xs, f x = g x) : xs.mapM f = xs.mapM g := by
  induction xs with
  | nil => rfl
  | cons x rest ih =>
      rw [List.forall_mem_cons] at h
      rw [List.mapM_cons, List.mapM_cons, h.1, ih h.2]

end CodeRetrieval
