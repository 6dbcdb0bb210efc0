/-
# CodeRetrieval.Proofs.LetterCase — what the lower-case form does to a text.

Every character has a lower-case form of one character at least, and the underscore comes from itself
only: the small forms of all runs of capitals lie behind it.  The ASCII small letters keep their form,
and each of them is the form of its capital.
-/
import CodeRetrieval.Token.Identifier
import CodeRetrieval.Unicode.LowerCase
import CodeRetrieval.Unicode.Word

namespace CodeRetrieval

namespace Unicode

variable {text : Text} {c : Char}

/-! ## Any text -/

/-- A code point keeps its place, or moves to where the small forms of some run start or behind. -/
theorem CaseRun.lower_eq_or (runs : List CaseRun) (n : Nat) :
    lower runs n = n ∨ ∃ run ∈ runs, run.image ≤ lower runs n := by
  induction runs with
  | nil => exact .inl rfl
  | cons run runs ih =>
      unfold lower
      split
      · exact .inl rfl
      · split
        · exact .inr ⟨run, List.mem_cons_self, Nat.le_add_right _ _⟩
        · rcases ih with hsame | ⟨run', hmem, hle⟩
          · exact .inl hsame
          · exact .inr ⟨run', List.mem_cons_of_mem _ hmem, hle⟩

theorem underscore_lt_image : ∀ run ∈ caseRuns, 95 < run.image := by decide +kernel

/-- A character keeps the number that it is made of, or has the number zero. -/
theorem toNat_ofNat_or (n : Nat) : (Char.ofNat n).toNat = n ∨ (Char.ofNat n).toNat = 0 := by
  by_cases h : n.isValidChar
  · left
    rw [show Char.ofNat n = Char.ofNatAux n h from dif_pos h]
    rfl
  · right
    rw [show Char.ofNat n = _ from dif_neg h]
    rfl

theorem eq_underscore_of_mem_lowerChar (h : '_' ∈ lowerChar c) : c = '_' := by
  unfold lowerChar at h
  split at h
  · exact absurd h (by decide)
  · have hcode : (Char.ofNat (CaseRun.lower caseRuns c.toNat)).toNat = 95 := by
      rw [← List.mem_singleton.mp h]
      rfl
    rcases toNat_ofNat_or (CaseRun.lower caseRuns c.toNat) with hnumber | hzero
    · have hlower : CaseRun.lower caseRuns c.toNat = 95 := hnumber.symm.trans hcode
      rcases CaseRun.lower_eq_or caseRuns c.toNat with hsame | ⟨run, hrun, hle⟩
      · exact Char.toNat_inj.mp (hsame.symm.trans hlower)
      · have := underscore_lt_image run hrun
        omega
    · omega

theorem lowerChar_ne_nil (c : Char) : lowerChar c ≠ [] := by
  unfold lowerChar
  split <;> simp

theorem not_mem_lowerAfter (before : Text) (h : '_' ∉ text) : '_' ∉ lowerAfter before text := by
  induction text generalizing before with
  | nil => simp [lowerAfter]
  | cons c text ih =>
      rw [List.mem_cons, not_or] at h
      unfold lowerAfter
      rw [List.mem_append, not_or]
      refine ⟨?_, ih _ h.2⟩
      split
      · unfold lowerSigma
        split <;> decide
      · exact fun hmem => h.1 (eq_underscore_of_mem_lowerChar hmem).symm

/-- Lower case puts no underscore into a text. -/
theorem not_mem_lowerCase (h : '_' ∉ text) : '_' ∉ lowerCase text := not_mem_lowerAfter [] h

/-- Lower case leaves something of every text that is not empty. -/
theorem lowerCase_ne_nil (h : text ≠ []) : lowerCase text ≠ [] := by
  obtain ⟨c, rest, rfl⟩ := List.exists_cons_of_ne_nil h
  unfold lowerCase lowerAfter
  split
  · simp
  · simp [lowerChar_ne_nil]

/-! ## ASCII letters -/

/-- What holds of each of the 26 code points holds of every ASCII small letter. -/
theorem forall_small {p : Char → Prop} (h : ∀ n < 26, p (Char.ofNat ('a'.toNat + n))) (c : Char)
    (hc : Identifier.isSmall c = true) : p c := by
  unfold Identifier.isSmall at hc
  simp only [Bool.and_eq_true, decide_eq_true_eq, Char.le_def, UInt32.le_iff_toNat_le] at hc
  have hlow : 'a'.toNat ≤ c.toNat := hc.1
  have hhigh : c.toNat ≤ 'a'.toNat + 25 := hc.2
  have hpoint := h (c.toNat - 'a'.toNat) (by omega)
  rwa [Nat.add_sub_cancel' hlow, Char.ofNat_toNat] at hpoint

theorem isWord_of_small : ∀ c, Identifier.isSmall c = true →
    isWord c = true ∧ isWord c.toUpper = true :=
  forall_small (by decide)

theorem isCapital_of_small : ∀ c, Identifier.isSmall c = true → Identifier.isCapital c = false ∧
    Identifier.isCapital c.toUpper = true ∧ Identifier.isSmall c.toUpper = false :=
  forall_small (by decide)

theorem lowerChar_of_small : ∀ c, Identifier.isSmall c = true →
    lowerChar c = [c] ∧ lowerChar c.toUpper = [c] :=
  forall_small (by decide)

theorem ne_of_small : ∀ c, Identifier.isSmall c = true →
    (c ≠ 'Σ' ∧ c ≠ '_') ∧ c.toUpper ≠ 'Σ' ∧ c.toUpper ≠ '_' :=
  forall_small (by decide)

theorem lowerAfter_of_small (before : Text) (h : ∀ c ∈ text, Identifier.isSmall c = true) :
    lowerAfter before text = text := by
  induction text generalizing before with
  | nil => rfl
  | cons c text ih =>
      rw [List.forall_mem_cons] at h
      rw [lowerAfter, if_neg (ne_of_small c h.1).1.1, (lowerChar_of_small c h.1).1, ih _ h.2]
      rfl

end Unicode

end CodeRetrieval
