/-
# CodeRetrieval.Proofs.StableSort — how a stable sort treats a list in two parts.

Sorting a list with one more entry in front puts this entry before the first one that it need not
follow.  So if the entries with a property all come strictly before the others, sorting the list is
sorting its two parts one by one.

With its place beside it, every entry is ahead of another one or behind it: places break the ties.  The
sorted list is the list of all entries in that order.
-/
import Mathlib.Data.List.Basic

namespace CodeRetrieval.StableSort

variable {α : Type} {le : α → α → Bool} {p : α → Bool} {xs : List α}

section Places

variable {q : α → Bool} {ys : List α}

theorem takeWhile_append_of_neg (h : ∀ b ∈ ys, q b = false) :
    (xs ++ ys).takeWhile q = xs.takeWhile q := by
  induction xs with
  | nil =>
      cases ys with
      | nil => rfl
      | cons b ys => simp [h b List.mem_cons_self]
  | cons x xs ih =>
      cases hx : q x <;> simp [hx, ih]

theorem dropWhile_append_of_neg (h : ∀ b ∈ ys, q b = false) :
    (xs ++ ys).dropWhile q = xs.dropWhile q ++ ys := by
  induction xs with
  | nil =>
      cases ys with
      | nil => rfl
      | cons b ys => simp [h b List.mem_cons_self]
  | cons x xs ih =>
      cases hx : q x <;> simp [hx, ih]

end Places

/-- One more entry in front comes to stand before the first one that it need not follow. -/
theorem mergeSort_cons_eq (trans : ∀ a b c, le a b = true → le b c = true → le a c = true)
    (total : ∀ a b, (le a b || le b a) = true) (a : α) (xs : List α) :
    (a :: xs).mergeSort le = (xs.mergeSort le).takeWhile (fun b => !le a b) ++
      a :: (xs.mergeSort le).dropWhile (fun b => !le a b) := by
  obtain ⟨front, back, hcons, hsorted, hfront⟩ := List.mergeSort_cons trans total a xs
  have hpairwise := List.pairwise_mergeSort trans total (a :: xs)
  rw [hcons] at hpairwise
  have hback : ∀ b ∈ back, le a b = true :=
    (List.pairwise_cons.mp (List.pairwise_append.mp hpairwise).2.1).1
  rw [hcons, hsorted, List.takeWhile_append_of_pos hfront, List.dropWhile_append_of_pos hfront]
  cases back with
  | nil => simp
  | cons b back =>
      have hb : le a b = true := hback b List.mem_cons_self
      simp [hb]

/-- Comparisons that agree on the entries of a list sort it in one way. -/
theorem mergeSort_congr {le' : α → α → Bool} (h : ∀ a ∈ xs, ∀ b ∈ xs, le a b = le' a b) :
    xs.mergeSort le = xs.mergeSort le' := by
  have hmap := List.map_mergeSort (f := id) h
  simpa using hmap

/-- A list whose entries with a property come strictly before the others is sorted part by part. -/
theorem mergeSort_eq_append (trans : ∀ a b c, le a b = true → le b c = true → le a c = true)
    (total : ∀ a b, (le a b || le b a) = true)
    (h : ∀ a ∈ xs, ∀ b ∈ xs, p a = true → p b = false → le a b = true ∧ le b a = false) :
    xs.mergeSort le = (xs.filter p).mergeSort le ++ (xs.filter fun a => !p a).mergeSort le := by
  induction xs with
  | nil => simp
  | cons x xs ih =>
      have hrest := ih fun a ha b hb => h a (List.mem_cons_of_mem x ha) b (List.mem_cons_of_mem x hb)
      rw [mergeSort_cons_eq trans total, hrest]
      cases hx : p x with
      | true =>
          -- the place of the entry is in the first part, as it need not follow any of the second
          rw [List.filter_cons_of_pos hx, List.filter_cons_of_neg (by simp [hx]),
            mergeSort_cons_eq trans total]
          have hsecond : ∀ b ∈ (xs.filter fun a => !p a).mergeSort le, (!le x b) = false := by
            intro b hb
            rw [List.mem_mergeSort, List.mem_filter] at hb
            have hbefore := h x List.mem_cons_self b (List.mem_cons_of_mem x hb.1) hx (by simpa using hb.2)
            simp [hbefore.1]
          rw [takeWhile_append_of_neg hsecond, dropWhile_append_of_neg hsecond, List.append_assoc,
            List.cons_append]
      | false =>
          -- the entry follows all of the first part
          rw [List.filter_cons_of_neg (by simp [hx]), List.filter_cons_of_pos (by simp [hx]),
            mergeSort_cons_eq trans total]
          have hfirst : ∀ a ∈ (xs.filter p).mergeSort le, (!le x a) = true := by
            intro a ha
            rw [List.mem_mergeSort, List.mem_filter] at ha
            have hbefore := h a (List.mem_cons_of_mem x ha.1) x List.mem_cons_self ha.2 hx
            simp [hbefore.2]
          rw [List.takeWhile_append_of_pos hfirst, List.dropWhile_append_of_pos hfirst,
            List.append_assoc]

/-! ## Entries with their places -/

/-- Whether the first of two entries, each with its place in the list, comes before the second one: it
need not follow it, and if neither need follow the other, it has the earlier place. -/
def Ahead (le : α → α → Bool) (a b : α × Nat) : Prop :=
  le a.1 b.1 = true ∧ (le b.1 a.1 = true → a.2 < b.2)

theorem Ahead.asymm {a b : α × Nat} (hab : Ahead le a b) (hba : Ahead le b a) : False := by
  have hlt := hab.2 hba.1
  have hgt := hba.2 hab.1
  omega

/-- Two lists of the same entries in which every entry is ahead of those behind it are equal. -/
theorem eq_of_ahead {placed placed' : List (α × Nat)} (hperm : placed.Perm placed')
    (h : placed.Pairwise (Ahead le)) (h' : placed'.Pairwise (Ahead le)) : placed = placed' := by
  refine hperm.eq_of_pairwise ?_ h h'
  intro a b _ _ hab hba
  exact (hab.asymm hba).elim

/-- However the entries are arranged, each keeps a place of its own. -/
theorem nodup_places {placed : List (α × Nat)} (h : placed.Perm xs.zipIdx) :
    (placed.map Prod.snd).Nodup := by
  rw [(h.map Prod.snd).nodup_iff, List.zipIdx_map_snd]
  exact List.nodup_range'

/-- The stable sort lists the entries with their places, each ahead of those behind it. -/
theorem exists_placed (trans : ∀ a b c, le a b = true → le b c = true → le a c = true)
    (total : ∀ a b, (le a b || le b a) = true) (xs : List α) :
    ∃ placed : List (α × Nat), placed.Perm xs.zipIdx ∧ placed.Pairwise (Ahead le) ∧
      xs.mergeSort le = placed.map Prod.fst := by
  have hperm := List.mergeSort_perm xs.zipIdx (List.zipIdxLE le)
  refine ⟨xs.zipIdx.mergeSort (List.zipIdxLE le), hperm, ?_, List.mergeSort_zipIdx.symm⟩
  have hsorted := List.pairwise_mergeSort (List.zipIdxLE_trans trans) (List.zipIdxLE_total total)
    xs.zipIdx
  have hplaces : (xs.zipIdx.mergeSort (List.zipIdxLE le)).Pairwise fun a b => a.2 ≠ b.2 :=
    List.pairwise_map.mp (nodup_places hperm)
  refine (hsorted.and hplaces).imp ?_
  rintro a b ⟨hle, hne⟩
  unfold List.zipIdxLE at hle
  split at hle
  · rename_i hab
    refine ⟨hab, fun hba => ?_⟩
    rw [if_pos hba, decide_eq_true_eq] at hle
    exact Nat.lt_of_le_of_ne hle hne
  · cases hle

end CodeRetrieval.StableSort
