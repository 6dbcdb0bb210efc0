/-
# CodeRetrieval.Proofs.Backoff — when repeated attempts come to their end, and what lies between them.

The attempts of a run are all worth repeating but the final one, and the final one is either lasting or
the last that the retries allow.  So its number is the smaller of two: the number of the first lasting
outcome, which may not be there, and the number of retries.

What happens in a run is told by that number alone: every attempt before the final one is followed by one
wait, and nothing follows the final one.  The waits are the first one doubled again and again.  Each
doubling is cut off at the longest duration, and cutting off once, at the end, comes to the same, as long
as the first wait is a duration itself.
-/
import CodeRetrieval.Embedding.Backoff
import Mathlib.Data.ENat.Lattice

namespace CodeRetrieval

/-! ## First numbers -/

/-- The first number with a property, infinite if there is none. -/
noncomputable def firstWith (p : Nat → Prop) : ℕ∞ := ⨅ n ∈ {n | p n}, (n : ℕ∞)

theorem le_firstWith {p : Nat → Prop} {bound : Nat} (h : ∀ n < bound, ¬ p n) :
    (bound : ℕ∞) ≤ firstWith p := by
  refine le_iInf₂ fun n hn => ?_
  rw [Nat.cast_le]
  by_contra hlt
  exact h n (Nat.lt_of_not_le hlt) hn

theorem firstWith_le {p : Nat → Prop} {n : Nat} (h : p n) : firstWith p ≤ n :=
  iInf₂_le n h

theorem min_firstWith {p : Nat → Prop} {limit last : Nat} (hle : last ≤ limit)
    (hbefore : ∀ n < last, ¬ p n) (hlast : last < limit → p last) :
    (last : ℕ∞) = min (firstWith p) limit := by
  apply le_antisymm
  · exact le_min (le_firstWith hbefore) (Nat.cast_le.mpr hle)
  · by_cases hlt : last < limit
    · exact (min_le_left _ _).trans (firstWith_le (hlast hlt))
    · obtain rfl : last = limit := by omega
      exact min_le_right _ _

namespace Backoff

variable {α : Type} {operation : Nat → Except Failure α} {attempt delay retries last : Nat}

/-! ## Waits -/

/-- Doubling with a cut at the longest duration each time is doubling with one cut at the end. -/
theorem iterate_double (h : delay ≤ longest) (n : Nat) :
    double^[n] delay = min (delay * twoTo n) longest := by
  induction n with
  | zero => simpa using (Nat.min_eq_left h).symm
  | succ n ih =>
      rw [Function.iterate_succ_apply', ih, twoTo_succ, ← Nat.mul_assoc]
      unfold double
      omega

/-! ## One attempt -/

/-- An outcome worth repeating: a failure to embed that may pass. -/
def Repeatable (outcome : Except Failure α) : Prop :=
  ∃ fault, outcome = .error (.embedding fault) ∧ fault.isPassing = true

theorem mayPass_iff {outcome : Except Failure α} : mayPass outcome = true ↔ Repeatable outcome := by
  unfold Repeatable
  cases outcome with
  | ok value => simp [mayPass]
  | error failure => cases failure <;> simp [mayPass, Failure.isRetryable]

theorem runFrom_of_lasting (h : mayPass (operation attempt) = false) (delay retries : Nat) :
    runFrom operation attempt delay retries = ⟨operation attempt, [.attempt attempt]⟩ := by
  cases retries with
  | zero => rfl
  | succ retries => simp [runFrom, h]

theorem runFrom_of_passing (h : mayPass (operation attempt) = true) (delay retries : Nat) :
    runFrom operation attempt delay (retries + 1) =
      let rest := runFrom operation (attempt + 1) (double delay) retries
      ⟨rest.outcome, .attempt attempt :: .wait delay :: rest.events⟩ := by
  simp [runFrom, h]

/-! ## All attempts -/

/-- The attempts from one on to the final one, `last` places behind it, with a wait behind each of them
but the final one. -/
def schedule (attempt : Nat) (waits : Nat → Nat) (last : Nat) : List Event :=
  ((List.range last).flatMap fun n => [.attempt (attempt + n), .wait (waits n)]) ++
    [.attempt (attempt + last)]

theorem schedule_succ (attempt : Nat) (waits : Nat → Nat) (last : Nat) :
    schedule attempt waits (last + 1) =
      .attempt attempt :: .wait (waits 0) ::
        schedule (attempt + 1) (fun n => waits (n + 1)) last := by
  unfold schedule
  rw [List.range_succ_eq_map, List.flatMap_cons, List.flatMap_map]
  simp only [Nat.succ_eq_add_one, Nat.add_zero, Nat.add_assoc, Nat.add_comm 1, List.cons_append,
    List.nil_append]

theorem countP_schedule (attempt : Nat) (waits : Nat → Nat) (last : Nat) :
    (schedule attempt waits last).countP Event.isAttempt = last + 1 := by
  induction last generalizing attempt waits with
  | zero => rfl
  | succ last ih =>
      rw [schedule_succ, List.countP_cons_of_pos rfl, List.countP_cons_of_neg (by simp [Event.isAttempt]),
        ih]

/-- A run from an attempt on has its final attempt `last` places behind: the attempts before are worth
repeating, and the final one is lasting unless the retries are used up and decides the outcome.  The waits
between them are the first one doubled again and again. -/
structure EndsAfter (operation : Nat → Except Failure α) (attempt delay retries last : Nat)
    (run : Run α) : Prop where
  within : last ≤ retries
  passing : ∀ n < last, mayPass (operation (attempt + n)) = true
  lasting : last < retries → mayPass (operation (attempt + last)) = false
  outcome : run.outcome = operation (attempt + last)
  events : run.events = schedule attempt (fun n => double^[n] delay) last

theorem exists_endsAfter (operation : Nat → Except Failure α) (attempt delay retries : Nat) :
    ∃ last, EndsAfter operation attempt delay retries last
      (runFrom operation attempt delay retries) := by
  induction retries generalizing attempt delay with
  | zero => exact ⟨0, by omega, by simp, by simp, rfl, rfl⟩
  | succ retries ih =>
      cases h : mayPass (operation attempt) with
      | false =>
          rw [runFrom_of_lasting h]
          exact ⟨0, by omega, by simp, by simp [h], rfl, rfl⟩
      | true =>
          -- the attempts of the rest are counted from the next one
          obtain ⟨last, hrest⟩ := ih (attempt + 1) (double delay)
          rw [runFrom_of_passing h]
          have hshift : ∀ n, attempt + (n + 1) = attempt + 1 + n := by omega
          refine ⟨last + 1, ?_, ?_, ?_, ?_, ?_⟩
          · have hwithin := hrest.within
            omega
          · intro n hn
            cases n with
            | zero => exact h
            | succ n =>
                rw [hshift]
                exact hrest.passing n (by omega)
          · intro hlt
            rw [hshift]
            exact hrest.lasting (by omega)
          · show (runFrom operation (attempt + 1) (double delay) retries).outcome = _
            rw [hshift last]
            exact hrest.outcome
          · rw [schedule_succ]
            show .attempt attempt :: .wait delay ::
              (runFrom operation (attempt + 1) (double delay) retries).events = _
            rw [hrest.events]
            rfl

theorem EndsAfter.attempts {run : Run α} (h : EndsAfter operation attempt delay retries last run) :
    run.attempts = last + 1 := by
  unfold Run.attempts
  rw [h.events, countP_schedule]

/-- The final attempt is the first lasting one or the last that the retries allow, whichever comes
first. -/
theorem exists_last (retries delay : Nat) (operation : Nat → Except Failure α) :
    ∃ last : Nat, (last : ℕ∞) = min (firstWith fun n => mayPass (operation n) = false) retries ∧
      EndsAfter operation 0 delay retries last (run retries delay operation) := by
  obtain ⟨last, h⟩ := exists_endsAfter operation 0 delay retries
  have hpassing := h.passing
  have hlasting := h.lasting
  simp only [Nat.zero_add] at hpassing hlasting
  refine ⟨last, min_firstWith h.within ?_ hlasting, h⟩
  intro n hn
  simp [hpassing n hn]

/-- A run ends with the first lasting outcome or with the last retry, whichever comes first, and its
outcome is that of its last attempt. -/
theorem run_ends (retries delay : Nat) (operation : Nat → Except Failure α) :
    ∃ last : Nat, (last : ℕ∞) = min (firstWith fun n => mayPass (operation n) = false) retries ∧
      (run retries delay operation).attempts = last + 1 ∧
      (run retries delay operation).outcome = operation last := by
  obtain ⟨last, hlast, h⟩ := exists_last retries delay operation
  have houtcome := h.outcome
  rw [Nat.zero_add] at houtcome
  exact ⟨last, hlast, h.attempts, houtcome⟩

/-- A run makes its attempts up to the first outcome that is not worth repeating, but no more than there
are retries and one, and comes to what the last attempt came to.  Between an attempt and the next one it
waits for the first wait doubled as many times as there were attempts before, at most for the longest
duration; it does nothing else. -/
theorem run_doubles_waits (h : delay ≤ longest) (retries : Nat)
    (operation : Nat → Except Failure α) :
    ∃ last : Nat, (last : ℕ∞) = min (firstWith fun n => ¬ Repeatable (operation n)) retries ∧
      (run retries delay operation).attempts = last + 1 ∧
      (run retries delay operation).outcome = operation last ∧
      (run retries delay operation).events =
        schedule 0 (fun n => min (delay * twoTo n) longest) last := by
  obtain ⟨last, hlast, hends⟩ := exists_last retries delay operation
  have hlasting : ∀ n, mayPass (operation n) = false ↔ ¬ Repeatable (operation n) := by
    intro n
    rw [← mayPass_iff, Bool.not_eq_true]
  have houtcome := hends.outcome
  have hevents := hends.events
  simp only [hlasting] at hlast
  rw [Nat.zero_add] at houtcome
  simp only [iterate_double h] at hevents
  exact ⟨last, hlast, hends.attempts, houtcome, hevents⟩

/-- An operation that fails twice in a way that may pass, and then for want of a key. -/
def keylessAtLast : Nat → Except Failure Nat
  | 0 | 1 => .error (.embedding .unreachable)
  | _ => .error (.config .missingKey)

theorem run_keylessAtLast :
    longest - 1 ≤ longest ∧
      (run (twoTo 32 - 1) (longest - 1) keylessAtLast).attempts = 3 ∧
      (run (twoTo 32 - 1) (longest - 1) keylessAtLast).outcome = .error (.config .missingKey) ∧
      (run (twoTo 32 - 1) (longest - 1) keylessAtLast).events =
        [.attempt 0, .wait (longest - 1), .attempt 1, .wait longest, .attempt 2] := by
  have hdelay : longest - 1 ≤ longest := Nat.sub_le _ _
  obtain ⟨last, hlast, hattempts, houtcome, hevents⟩ :=
    run_doubles_waits hdelay (twoTo 32 - 1) keylessAtLast
  have hrepeatable : ∀ n < 2, ¬ ¬ Repeatable (keylessAtLast n) := by
    intro n hn
    have hcases : n = 0 ∨ n = 1 := by omega
    rw [not_not]
    rcases hcases with rfl | rfl <;> exact ⟨.unreachable, rfl, rfl⟩
  have hkeyless : ¬ Repeatable (keylessAtLast 2) := by
    rintro ⟨fault, hfault, -⟩
    cases hfault
  have htwo : ((2 : Nat) : ℕ∞) =
      min (firstWith fun n => ¬ Repeatable (keylessAtLast n)) (twoTo 32 - 1 : Nat) :=
    min_firstWith (by decide) hrepeatable fun _ => hkeyless
  obtain rfl : last = 2 := Nat.cast_inj.mp (hlast.trans htwo.symm)
  refine ⟨hdelay, hattempts, houtcome, hevents.trans ?_⟩
  decide +kernel

/-- Failures that never end cost one attempt more than there are retries. -/
example : (run 2 5 fun _ => (.error (.embedding .unreachable) : Except Failure Nat)).events =
    [.attempt 0, .wait 5, .attempt 1, .wait 10, .attempt 2] := by decide

end Backoff

end CodeRetrieval
