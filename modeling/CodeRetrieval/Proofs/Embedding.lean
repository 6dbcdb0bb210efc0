/-
# CodeRetrieval.Proofs.Embedding — which answer a text gets.

Cut into batches, the entry at a place has its own batch and its own place there.  So a text gets the
vector at its place in the answer to its batch, and nothing if that answer cannot be used: whatever the
answers to other batches are, they do not reach it.  Embedding a query is different, as the first batch
that fails decides.  How many batches are under way and when they are answered makes no difference to
either.
-/
import CodeRetrieval.Embedding.Provider
import CodeRetrieval.Proofs.Buffer
import CodeRetrieval.Proofs.FirstFailure

namespace CodeRetrieval

/-! ## The batch of a place -/

section Batches

variable {α β : Type} {size : Nat} {xs batch : List α} {place : Nat}

theorem batches_of_ne_nil (size : Nat) (h : xs ≠ []) :
    batches size xs = xs.take (max size 1) :: batches size (xs.drop (max size 1)) := by
  obtain ⟨x, rest, rfl⟩ := List.exists_cons_of_ne_nil h
  have hsize : max size 1 = size - 1 + 1 := by omega
  rw [batches, hsize, List.take_succ_cons, List.drop_succ_cons]

/-- Induction along the batches of a list. -/
theorem batches_induction (size : Nat) {motive : List α → Prop} (nil : motive [])
    (cut : ∀ xs, xs ≠ [] → motive (xs.drop (max size 1)) → motive xs) (xs : List α) : motive xs := by
  induction xs using batches.induct size with
  | case1 => exact nil
  | case2 x rest ih =>
      apply cut _ (List.cons_ne_nil x rest)
      rw [show max size 1 = size - 1 + 1 by omega, List.drop_succ_cons]
      exact ih

theorem ne_nil_of_mem_batches (h : batch ∈ batches size xs) : batch ≠ [] := by
  fun_induction batches size xs with
  | case1 => cases h
  | case2 x rest ih =>
      rcases List.mem_cons.mp h with rfl | h
      · exact List.cons_ne_nil _ _
      · exact ih h

theorem length_le_of_mem_batches (h : batch ∈ batches size xs) : batch.length ≤ max size 1 := by
  induction xs using batches_induction size with
  | nil => simp [batches] at h
  | cut xs hne ih =>
      rw [batches_of_ne_nil size hne, List.mem_cons] at h
      rcases h with rfl | h
      · exact List.length_take_le _ _
      · exact ih h

/-- The batch that holds the entry at a place. -/
def batchOf (size : Nat) (xs : List α) (place : Nat) : List α :=
  (xs.drop (place / max size 1 * max size 1)).take (max size 1)

theorem batchOf_of_lt (xs : List α) (h : place < max size 1) :
    batchOf size xs place = xs.take (max size 1) := by
  unfold batchOf
  rw [Nat.div_eq_of_lt h, Nat.zero_mul, List.drop_zero]

theorem batchOf_add (size : Nat) (xs : List α) (place : Nat) :
    batchOf size xs (max size 1 + place) = batchOf size (xs.drop (max size 1)) place := by
  have hpos : 0 < max size 1 := by omega
  unfold batchOf
  rw [List.drop_drop, Nat.add_div_left place hpos, Nat.succ_mul, Nat.add_comm]

/-- In its batch an entry stands at the remainder of its place. -/
theorem getElem?_batchOf (size : Nat) (xs : List α) (place : Nat) :
    (batchOf size xs place)[place % max size 1]? = xs[place]? := by
  have hlt : place % max size 1 < max size 1 := Nat.mod_lt _ (by omega)
  unfold batchOf
  rw [List.getElem?_take_of_lt hlt, List.getElem?_drop, Nat.div_add_mod']

/-- The batch of a place is the one that its quotient numbers. -/
theorem getElem?_batches (h : place < xs.length) :
    (batches size xs)[place / max size 1]? = some (batchOf size xs place) := by
  induction xs using batches_induction size generalizing place with
  | nil => cases h
  | cut xs hne ih =>
      rw [batches_of_ne_nil size hne]
      by_cases hplace : place < max size 1
      · rw [batchOf_of_lt xs hplace, Nat.div_eq_of_lt hplace, List.getElem?_cons_zero]
      · obtain ⟨further, rfl⟩ := Nat.exists_eq_add_of_le (Nat.le_of_not_lt hplace)
        have hfurther : further < (xs.drop (max size 1)).length := by
          rw [List.length_drop]
          omega
        rw [batchOf_add, Nat.add_div_left further (by omega), List.getElem?_cons_succ, ih hfurther]

theorem batchOf_mem_batches (h : place < xs.length) : batchOf size xs place ∈ batches size xs :=
  List.mem_of_getElem? (getElem?_batches h)

/-- The entries of a batch are those whose batch it is. -/
theorem exists_place_of_mem_batches {x : α} (h : batch ∈ batches size xs) (hx : x ∈ batch) :
    ∃ place, xs[place]? = some x ∧ batchOf size xs place = batch := by
  induction xs using batches_induction size with
  | nil => simp [batches] at h
  | cut xs hne ih =>
      rw [batches_of_ne_nil size hne, List.mem_cons] at h
      rcases h with rfl | h
      · obtain ⟨place, hplace⟩ := List.mem_iff_getElem?.mp hx
        rw [List.getElem?_take, Option.ite_none_right_eq_some] at hplace
        exact ⟨place, hplace.2, batchOf_of_lt xs hplace.1⟩
      · obtain ⟨place, hplace, hbatch⟩ := ih h
        exact ⟨max size 1 + place, by rw [← List.getElem?_drop, hplace], by rw [batchOf_add, hbatch]⟩

/-- What is done to batches entry by entry can be read off an entry's own batch. -/
theorem getElem?_flatMap_batches {f : List α → List β} (hf : ∀ batch, (f batch).length = batch.length)
    (h : place < xs.length) :
    ((batches size xs).flatMap f)[place]? = (f (batchOf size xs place))[place % max size 1]? := by
  induction xs using batches_induction size generalizing place with
  | nil => cases h
  | cut xs hne ih =>
      have hlength : (f (xs.take (max size 1))).length = min (max size 1) xs.length := by
        rw [hf, List.length_take]
      rw [batches_of_ne_nil size hne, List.flatMap_cons]
      by_cases hplace : place < max size 1
      · rw [batchOf_of_lt xs hplace, Nat.mod_eq_of_lt hplace, List.getElem?_append_left (by omega)]
      · obtain ⟨further, rfl⟩ := Nat.exists_eq_add_of_le (Nat.le_of_not_lt hplace)
        have hfurther : further < (xs.drop (max size 1)).length := by
          rw [List.length_drop]
          omega
        -- there are entries behind the first batch, so it is full
        have hfirst : (f (xs.take (max size 1))).length = max size 1 := by omega
        rw [batchOf_add, Nat.add_mod_left, ← ih hfurther, List.getElem?_append_right (by omega), hfirst,
          Nat.add_sub_cancel_left]

end Batches

/-! ## The answers of a provider -/

namespace Provider

variable {R : Type} {provider : Provider R} {size : Nat} {texts batch : List Text} {place : Nat}

/-- The vectors in the answer to a batch, if there are as many as texts. -/
def usable (provider : Provider R) (batch : List Text) : Option (List (List R)) :=
  match provider batch with
  | .ok vectors => if vectors.length = batch.length then some vectors else none
  | .error _ => none

/-- The vector of the text at a place: the one at its place in the answer to its own batch. -/
def answer (provider : Provider R) (size : Nat) (texts : List Text) (place : Nat) : Option (List R) :=
  (provider.usable (batchOf size texts place)).bind (·[place % max size 1]?)

theorem length_of_usable {vectors : List (List R)} (h : provider.usable batch = some vectors) :
    vectors.length = batch.length := by
  unfold usable at h
  split at h
  · rw [Option.ite_none_right_eq_some, Option.some.injEq] at h
    obtain ⟨hlength, rfl⟩ := h
    exact hlength
  · cases h

theorem entries_of_usable {vectors : List (List R)} (h : provider.usable batch = some vectors) :
    entries batch (provider batch) = vectors.map some := by
  unfold usable at h
  unfold entries
  cases hanswer : provider batch with
  | error => simp [hanswer] at h
  | ok answered =>
      rw [hanswer] at h
      obtain ⟨hlength, hvectors⟩ := Option.ite_none_right_eq_some.mp h
      cases hvectors
      exact if_pos hlength

theorem entries_of_not_usable (h : provider.usable batch = none) :
    entries batch (provider batch) = List.replicate batch.length none := by
  unfold usable at h
  unfold entries
  cases hanswer : provider batch with
  | error => rfl
  | ok answered =>
      rw [hanswer] at h
      have hlength : answered.length ≠ batch.length := by
        intro hlength
        simp [hlength] at h
      exact if_neg hlength

theorem length_entries (provider : Provider R) (batch : List Text) :
    (entries batch (provider batch)).length = batch.length := by
  cases h : provider.usable batch with
  | none => rw [entries_of_not_usable h, List.length_replicate]
  | some vectors => rw [entries_of_usable h, List.length_map, length_of_usable h]

/-- The entries of all batches, each read off the answer to it. -/
def entriesOf (provider : Provider R) (size : Nat) (texts : List Text) : List (Option (List R)) :=
  (batches size texts).flatMap fun batch => entries batch (provider batch)

theorem getElem?_entries (provider : Provider R) (hplace : place < batch.length) :
    (entries batch (provider batch))[place]? = some ((provider.usable batch).bind (·[place]?)) := by
  cases h : provider.usable batch with
  | none =>
      rw [entries_of_not_usable h, List.getElem?_replicate, if_pos hplace]
      rfl
  | some vectors =>
      have hlength := length_of_usable h
      rw [entries_of_usable h, List.getElem?_map, Option.bind_some,
        List.getElem?_eq_getElem (by omega)]
      rfl

/-! ## Batches through the buffer -/

variable {width : Nat} {schedule : Buffer.Schedule}

/-- Every batch is sent once, in order. -/
@[simp]
theorem sent_embedTexts (provider : Provider R) (size width : Nat) (texts : List Text)
    (schedule : Buffer.Schedule) :
    (provider.embedTexts size width texts schedule).sent = batches size texts := by
  have hwidth : 0 < max width 1 := by omega
  exact (Buffer.exchange_spec hwidth schedule (batches size texts)).2.2.2 fun _ _ => rfl

/-- Each batch has the entries of its own answer, for every width and schedule. -/
theorem result_embedTexts (provider : Provider R) (size width : Nat) (texts : List Text)
    (schedule : Buffer.Schedule) :
    (provider.embedTexts size width texts schedule).result = provider.entriesOf size texts := by
  have hwidth : 0 < max width 1 := by omega
  have hresult : (Buffer.exchange provider (fun _ => false) (max width 1) schedule
      (batches size texts)).result = _ := (Buffer.exchange_spec hwidth schedule (batches size texts)).1
  rw [Buffer.upTo_of_none_ends fun _ _ => rfl] at hresult
  unfold embedTexts entriesOf
  dsimp only
  rw [hresult, ← List.map_prod_left_eq_zip, List.flatMap_map]

/-- The first failure is among the answers up to it. -/
theorem mapM_upTo (answers : List (Except Failure (List (List R)))) :
    (Buffer.upTo isFailure answers).mapM (fun answer => answer) =
      answers.mapM fun answer => answer := by
  induction answers with
  | nil => rfl
  | cons answer rest ih =>
      cases answer with
      | error failure =>
          have hends : isFailure (R := R) (.error failure) = true := rfl
          rw [Buffer.upTo, if_pos hends, List.mapM_cons, List.mapM_cons]
          rfl
      | ok vectors =>
          have hgoesOn : ¬ isFailure (.ok vectors) = true := by simp [isFailure, Except.isOk, Except.toBool]
          rw [Buffer.upTo, if_neg hgoesOn, List.mapM_cons, List.mapM_cons, ih]

/-- The batches of a query have all their answers, or the first failure, for every width and schedule. -/
theorem result_embedAll (provider : Provider R) (size width : Nat) (texts : List Text)
    (schedule : Buffer.Schedule) :
    (provider.embedAll size width texts schedule).result =
      ((batches size texts).mapM provider).map List.flatten := by
  have hwidth : 0 < max width 1 := by omega
  have hresult : (Buffer.exchange provider isFailure (max width 1) schedule
      (batches size texts)).result = _ := (Buffer.exchange_spec hwidth schedule (batches size texts)).1
  unfold embedAll
  dsimp only
  rw [hresult, mapM_upTo, List.mapM_map]
  rfl

/-- Of the batches of a query the first ones are sent. -/
theorem sent_embedAll_isPrefix (provider : Provider R) (size width : Nat) (texts : List Text)
    (schedule : Buffer.Schedule) :
    (provider.embedAll size width texts schedule).sent <+: batches size texts := by
  have hwidth : 0 < max width 1 := by omega
  exact (Buffer.exchange_spec hwidth schedule (batches size texts)).2.1

/-- All of them are sent if none fails. -/
theorem sent_embedAll_of_ok (h : ∀ batch ∈ batches size texts, ∃ vectors, provider batch = .ok vectors) :
    (provider.embedAll size width texts schedule).sent = batches size texts := by
  have hwidth : 0 < max width 1 := by omega
  refine (Buffer.exchange_spec hwidth schedule (batches size texts)).2.2.2 fun batch hbatch => ?_
  obtain ⟨vectors, hvectors⟩ := h batch hbatch
  rw [hvectors]
  rfl

/-! ## The entry of a text -/

/-- One entry for every text. -/
theorem length_entriesOf (provider : Provider R) (size : Nat) (texts : List Text) :
    (provider.entriesOf size texts).length = texts.length := by
  have hflatten := congrArg List.length (flatten_batches size texts)
  rw [List.length_flatten] at hflatten
  rw [entriesOf, List.length_flatMap, ← hflatten]
  simp only [length_entries]

/-- The entry of a text is the vector at its place in the answer to its own batch. -/
theorem getElem?_entriesOf (provider : Provider R) (size : Nat) (h : place < texts.length) :
    (provider.entriesOf size texts)[place]? = some (provider.answer size texts place) := by
  have hlookup : (provider.entriesOf size texts)[place]? =
      (entries (batchOf size texts place) (provider (batchOf size texts place)))[place % max size 1]? :=
    getElem?_flatMap_batches provider.length_entries h
  have hplace : place % max size 1 < (batchOf size texts place).length := by
    have hentry := getElem?_batchOf size texts place
    rw [List.getElem?_eq_getElem h] at hentry
    exact (List.getElem?_eq_some_iff.mp hentry).1
  rw [hlookup, provider.getElem?_entries hplace]
  rfl

/-- The texts of a batch without a usable answer get no vector. -/
theorem answer_of_not_usable (h : provider.usable (batchOf size texts place) = none) :
    provider.answer size texts place = none := by
  unfold answer
  rw [h, Option.bind_none]

/-- Providers that answer a text's batch alike give the text the same entry. -/
theorem answer_congr {provider' : Provider R}
    (h : provider (batchOf size texts place) = provider' (batchOf size texts place)) :
    provider.answer size texts place = provider'.answer size texts place := by
  unfold answer usable
  rw [h]

end Provider

end CodeRetrieval
