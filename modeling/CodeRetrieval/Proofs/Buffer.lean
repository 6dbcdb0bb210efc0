/-
# CodeRetrieval.Proofs.Buffer — answers are passed on in order, whatever the schedule.

An exchange is open, or it has come to an answer that ends it.  As long as it is open, the requests sent are
the first ones, and what is passed on and what is under way belong to them in their order; nothing that
happens changes that, and no more requests are under way than the buffer is wide.  So an exchange has one
result for all widths and schedules, the answers up to the first one that ends it, and what is sent are the
first requests, all of them if none is answered so.
-/
import CodeRetrieval.Embedding.Buffer
import Mathlib.Data.List.Basic

namespace CodeRetrieval.Buffer

variable {Q A : Type} {answer : Q → A} {ends : A → Bool} {width : Nat} {requests : List Q}
  {buffer : Buffer Q A}

/-! ## The answers wanted -/

/-- The answers up to the first one that ends the exchange. -/
def upTo (ends : A → Bool) : List A → List A
  | [] => []
  | answer :: rest => if ends answer then [answer] else answer :: upTo ends rest

theorem upTo_append {front : List A} (h : ∀ a ∈ front, ends a = false) (back : List A) :
    upTo ends (front ++ back) = front ++ upTo ends back := by
  induction front with
  | nil => rfl
  | cons a front ih =>
      obtain ⟨ha, hfront⟩ := List.forall_mem_cons.mp h
      rw [List.cons_append, upTo, if_neg (by simp [ha]), ih hfront, List.cons_append]

theorem upTo_of_none_ends {answers : List A} (h : ∀ a ∈ answers, ends a = false) :
    upTo ends answers = answers := by
  have happend := upTo_append h []
  rwa [List.append_nil, upTo, List.append_nil] at happend

/-! ## Open and ended exchanges -/

/-- An exchange in which no answer passed on has ended it. -/
structure Open (answer : Q → A) (ends : A → Bool) (width : Nat) (requests : List Q)
    (buffer : Buffer Q A) : Prop where
  split : buffer.sent.reverse ++ buffer.waiting = requests
  ordered : buffer.passed.reverse ++ buffer.underway.map (fun entry => answer entry.1) =
    buffer.sent.reverse.map answer
  arrived : ∀ entry ∈ buffer.underway, ∀ a ∈ entry.2, a = answer entry.1
  goesOn : ∀ a ∈ buffer.passed, ends a = false
  narrow : buffer.underway.length ≤ width

/-- An exchange that an answer has ended: what was under way then, less than the width, is dropped. -/
structure Ended (answer : Q → A) (ends : A → Bool) (width : Nat) (requests : List Q)
    (buffer : Buffer Q A) : Prop where
  underway : buffer.underway = []
  waiting : buffer.waiting = []
  sent : buffer.sent.reverse <+: requests
  passed : buffer.passed.reverse = upTo ends (requests.map answer)
  ending : ∃ request ∈ requests, ends (answer request) = true
  narrow : buffer.sent.length < buffer.passed.length + width

/-- An exchange is in order if it is open or ended. -/
def InOrder (answer : Q → A) (ends : A → Bool) (width : Nat) (requests : List Q)
    (buffer : Buffer Q A) : Prop :=
  Open answer ends width requests buffer ∨ Ended answer ends width requests buffer

theorem open_ofRequests : Open answer ends width requests (ofRequests requests) :=
  ⟨rfl, rfl, by simp [ofRequests], by simp [ofRequests], Nat.zero_le _⟩

/-! ### Sending -/

theorem Open.send (h : Open answer ends width requests buffer) :
    Open answer ends width requests (buffer.send width) := by
  unfold Buffer.send
  cases hwaiting : buffer.waiting with
  | nil => exact h
  | cons request waiting =>
      dsimp only
      split
      · next hroom =>
          have hsplit := h.split
          rw [hwaiting] at hsplit
          refine ⟨?_, ?_, ?_, h.goesOn, ?_⟩
          · rw [← hsplit, List.reverse_cons, List.append_assoc, List.singleton_append]
          · simp only [List.map_append, List.map_singleton, List.reverse_cons]
            rw [← List.append_assoc, h.ordered]
          · refine List.forall_mem_append.mpr ⟨h.arrived, List.forall_mem_singleton.mpr ?_⟩
            exact fun a ha => nomatch ha
          · rw [List.length_append, List.length_singleton]
            exact hroom
      · exact h

/-! ### Arriving -/

/-- Below a changed place a list has its own entries and the changed one. -/
theorem forall_mem_modify {B : Type} {f : B → B} {P : B → Prop} {xs : List B} {place : Nat}
    (h : ∀ x ∈ xs, P x) (hf : ∀ x ∈ xs, P (f x)) : ∀ x ∈ xs.modify place f, P x := by
  induction xs generalizing place with
  | nil => simp
  | cons x xs ih =>
      obtain ⟨hx, hxs⟩ := List.forall_mem_cons.mp h
      obtain ⟨hfx, hfxs⟩ := List.forall_mem_cons.mp hf
      cases place with
      | zero => exact List.forall_mem_cons.mpr ⟨hfx, hxs⟩
      | succ place => exact List.forall_mem_cons.mpr ⟨hx, ih hxs hfxs⟩

/-- What a change leaves alone is the same along the list. -/
theorem map_modify_of_same {B C : Type} {f : B → B} {g : B → C} (h : ∀ x, g (f x) = g x) (xs : List B)
    (place : Nat) : (xs.modify place f).map g = xs.map g := by
  induction xs generalizing place with
  | nil => simp
  | cons x xs ih =>
      cases place with
      | zero => simp [h]
      | succ place => simp [ih]

theorem Open.arrive (h : Open answer ends width requests buffer) (place : Nat) :
    Open answer ends width requests (buffer.arrive answer place) := by
  have hrequests : (buffer.arrive answer place).underway.map (fun entry => answer entry.1) =
      buffer.underway.map fun entry => answer entry.1 := by
    apply map_modify_of_same
    exact fun _ => rfl
  refine ⟨h.split, ?_, ?_, h.goesOn, ?_⟩
  · rw [hrequests]
    exact h.ordered
  · exact forall_mem_modify h.arrived fun entry _ a ha => (Option.some.inj ha).symm
  · show (buffer.underway.modify place _).length ≤ width
    rw [List.length_modify]
    exact h.narrow

/-! ### Passing on -/

section Oldest

variable {sent waiting : List Q} {passed : List A} {request : Q} {found : A}
  {rest : List (Q × Option A)}

/-- An answer that has arrived is that of its request. -/
theorem Open.found_eq
    (h : Open answer ends width requests ⟨sent, passed, (request, some found) :: rest, waiting⟩) :
    found = answer request :=
  h.arrived (request, some found) List.mem_cons_self found rfl

/-- The oldest answer is passed on and does not end the exchange. -/
theorem Open.next
    (h : Open answer ends width requests ⟨sent, passed, (request, some found) :: rest, waiting⟩)
    (hgoes : ends found = false) :
    Open answer ends width requests ⟨sent, found :: passed, rest, waiting⟩ := by
  obtain rfl := h.found_eq
  have hordered : passed.reverse ++ answer request :: rest.map (fun entry => answer entry.1) =
      sent.reverse.map answer := h.ordered
  refine ⟨h.split, ?_, ?_, List.forall_mem_cons.mpr ⟨hgoes, h.goesOn⟩, Nat.le_of_succ_le h.narrow⟩
  · rw [← hordered, List.reverse_cons, List.append_assoc, List.singleton_append]
  · exact fun entry hentry => h.arrived entry (List.mem_cons_of_mem _ hentry)

/-- The oldest answer is passed on and ends the exchange: what is behind it in the buffer does not count. -/
theorem Open.ended
    (h : Open answer ends width requests ⟨sent, passed, (request, some found) :: rest, waiting⟩)
    (hend : ends found = true) :
    Ended answer ends width requests ⟨sent, found :: passed, [], []⟩ := by
  obtain rfl := h.found_eq
  have hsplit : sent.reverse ++ waiting = requests := h.split
  have hordered : passed.reverse ++ answer request :: rest.map (fun entry => answer entry.1) =
      sent.reverse.map answer := h.ordered
  have hall : requests.map answer = passed.reverse ++
      answer request :: (rest.map (fun entry => answer entry.1) ++ waiting.map answer) := by
    rw [← hsplit, List.map_append, ← hordered, List.append_assoc, List.cons_append]
  refine ⟨rfl, rfl, hsplit ▸ List.prefix_append _ _, ?_, ?_, ?_⟩
  · rw [hall, upTo_append fun a ha => h.goesOn a (List.mem_reverse.mp ha), upTo, if_pos hend,
      List.reverse_cons]
  · have hmem : answer request ∈ requests.map answer :=
      hall ▸ List.mem_append_right _ List.mem_cons_self
    obtain ⟨other, hother, heq⟩ := List.mem_map.mp hmem
    exact ⟨other, hother, heq ▸ hend⟩
  · have hlengths := congrArg List.length hordered
    have hnarrow : rest.length + 1 ≤ width := h.narrow
    simp only [List.length_append, List.length_reverse, List.length_cons, List.length_map] at hlengths
    show sent.length < passed.length + 1 + width
    omega

end Oldest

theorem passOn_inOrder {sent waiting : List Q} {passed : List A} {underway : List (Q × Option A)}
    (h : Open answer ends width requests ⟨sent, passed, underway, waiting⟩) :
    InOrder answer ends width requests (passOn ends sent passed waiting underway) := by
  fun_induction passOn ends sent passed waiting underway with
  | case1 passed request found rest hend => exact .inr (h.ended hend)
  | case2 passed request found rest hend ih => exact ih (h.next (Bool.eq_false_iff.mpr hend))
  | case3 passed underway hopen => exact .inl h

/-! ## Steps and runs -/

theorem InOrder.step (h : InOrder answer ends width requests buffer) (event : Event) :
    InOrder answer ends width requests (step answer ends width buffer event) := by
  rcases h with hopen | hended
  · cases event with
    | send => exact .inl hopen.send
    | arrive place => exact passOn_inOrder (hopen.arrive place)
  · have hsame : Buffer.step answer ends width buffer event = buffer := by
      obtain ⟨sent, passed, underway, waiting⟩ := buffer
      obtain rfl : underway = [] := hended.underway
      obtain rfl : waiting = [] := hended.waiting
      cases event with
      | send => rfl
      | arrive place => cases place <;> rfl
    rw [hsame]
    exact .inr hended

theorem InOrder.run (h : InOrder answer ends width requests buffer) (schedule : Schedule) :
    InOrder answer ends width requests (schedule.foldl (Buffer.step answer ends width) buffer) := by
  induction schedule generalizing buffer with
  | nil => exact h
  | cons event schedule ih => exact ih (h.step event)

/-! ## Coming to the end -/

/-- The number of requests whose answers are not passed on. -/
def remaining (buffer : Buffer Q A) : Nat := buffer.underway.length + buffer.waiting.length

theorem remaining_send (width : Nat) (buffer : Buffer Q A) :
    (buffer.send width).remaining = buffer.remaining := by
  unfold send
  cases hwaiting : buffer.waiting with
  | nil => rfl
  | cons request waiting =>
      dsimp only
      split
      · show (buffer.underway ++ [(request, none)]).length + waiting.length =
          buffer.underway.length + buffer.waiting.length
        rw [hwaiting, List.length_append, List.length_singleton, List.length_cons]
        omega
      · rfl

theorem remaining_passOn_le (ends : A → Bool) (sent waiting : List Q) (passed : List A)
    (underway : List (Q × Option A)) :
    (passOn ends sent passed waiting underway).remaining ≤ underway.length + waiting.length := by
  fun_induction passOn ends sent passed waiting underway with
  | case1 => simp [remaining]
  | case2 passed request found rest hend ih =>
      rw [List.length_cons]
      omega
  | case3 => exact Nat.le_refl _

theorem remaining_step_le (answer : Q → A) (ends : A → Bool) (width : Nat) (buffer : Buffer Q A)
    (event : Event) : (step answer ends width buffer event).remaining ≤ buffer.remaining := by
  cases event with
  | send => exact Nat.le_of_eq (remaining_send width buffer)
  | arrive place =>
      refine Nat.le_trans (remaining_passOn_le _ _ _ _ _) (Nat.le_of_eq ?_)
      show (buffer.underway.modify place _).length + buffer.waiting.length = _
      rw [List.length_modify]
      rfl

theorem remaining_run_le (schedule : Schedule) :
    (schedule.foldl (step answer ends width) buffer).remaining ≤ buffer.remaining := by
  induction schedule generalizing buffer with
  | nil => exact Nat.le_refl _
  | cons event schedule ih => exact Nat.le_trans ih (remaining_step_le _ _ _ _ event)

/-- The oldest request is answered, and its answer passed on. -/
theorem remaining_arrive_zero_lt (answer : Q → A) (ends : A → Bool) (width : Nat)
    (h : buffer.underway ≠ []) :
    (step answer ends width buffer (.arrive 0)).remaining < buffer.remaining := by
  obtain ⟨sent, passed, underway, waiting⟩ := buffer
  obtain ⟨⟨request, found⟩, rest, rfl⟩ := List.exists_cons_of_ne_nil h
  show (passOn ends sent passed waiting ((request, some (answer request)) :: rest)).remaining <
    rest.length + 1 + waiting.length
  rw [passOn]
  split
  · show 0 + 0 < rest.length + 1 + waiting.length
    omega
  · have := remaining_passOn_le ends sent waiting (answer request :: passed) rest
    omega

/-- There is something under way once a request could be sent. -/
theorem underway_send_ne_nil (hwidth : 0 < width) (h : 0 < buffer.remaining) :
    (buffer.send width).underway ≠ [] := by
  unfold send
  cases hwaiting : buffer.waiting with
  | nil =>
      unfold remaining at h
      rw [hwaiting] at h
      exact List.ne_nil_of_length_pos h
  | cons request waiting =>
      dsimp only
      split
      · simp
      · exact List.ne_nil_of_length_pos (by omega)

/-- So many requests are sent and answered in turn, and nothing remains. -/
theorem remaining_inTurn (hwidth : 0 < width) (count : Nat) (h : buffer.remaining ≤ count) :
    ((inTurn count).foldl (step answer ends width) buffer).remaining = 0 := by
  induction count generalizing buffer with
  | zero => exact Nat.eq_zero_of_le_zero h
  | succ count ih =>
      show ((inTurn count).foldl (step answer ends width)
        (step answer ends width (step answer ends width buffer .send) (.arrive 0))).remaining = 0
      refine ih ?_
      have hsend : (step answer ends width buffer .send).remaining = buffer.remaining :=
        remaining_send width buffer
      by_cases hpos : 0 < buffer.remaining
      · have hless := remaining_arrive_zero_lt answer ends width (underway_send_ne_nil hwidth hpos)
        have hsame := remaining_send width buffer
        show (step answer ends width (buffer.send width) (.arrive 0)).remaining ≤ count
        omega
      · have hle := remaining_step_le answer ends width (step answer ends width buffer .send) (.arrive 0)
        omega

/-! ## Exchanges -/

/-- An open exchange in which nothing remains has sent every request and passed on every answer. -/
theorem Open.complete (h : Open answer ends width requests buffer) (hdone : buffer.remaining = 0) :
    buffer.sent.reverse = requests ∧ buffer.passed.reverse = requests.map answer := by
  unfold remaining at hdone
  have hunderway : buffer.underway = [] := List.length_eq_zero_iff.mp (by omega)
  have hwaiting : buffer.waiting = [] := List.length_eq_zero_iff.mp (by omega)
  have hsent := h.split
  rw [hwaiting, List.append_nil] at hsent
  have hpassed := h.ordered
  rw [hunderway, List.map_nil, List.append_nil, hsent] at hpassed
  exact ⟨hsent, hpassed⟩

/-- What an exchange comes to, under every schedule and for every width that lets one request pass: the
answers up to the first one that ends it.  The requests sent are the first ones, fewer than the width beyond
the answered ones, and all of them if no answer ends the exchange. -/
theorem exchange_spec (hwidth : 0 < width) (schedule : Schedule) (requests : List Q) :
    (exchange answer ends width schedule requests).result = upTo ends (requests.map answer) ∧
      (exchange answer ends width schedule requests).sent <+: requests ∧
      (exchange answer ends width schedule requests).sent.length <
        (exchange answer ends width schedule requests).result.length + width ∧
      ((∀ request ∈ requests, ends (answer request) = false) →
        (exchange answer ends width schedule requests).sent = requests) := by
  have horder : InOrder answer ends width requests
      ((schedule ++ inTurn requests.length).foldl (step answer ends width) (ofRequests requests)) :=
    InOrder.run (.inl open_ofRequests) _
  have hdone : ((schedule ++ inTurn requests.length).foldl (step answer ends width)
      (ofRequests requests)).remaining = 0 := by
    rw [List.foldl_append]
    refine remaining_inTurn hwidth _ (Nat.le_trans (remaining_run_le schedule) ?_)
    exact Nat.le_of_eq (Nat.zero_add _)
  unfold exchange
  generalize (schedule ++ inTurn requests.length).foldl (step answer ends width) (ofRequests requests) =
    final at horder hdone
  rcases horder with hopen | hended
  · obtain ⟨hsent, hpassed⟩ := hopen.complete hdone
    have hnone : ∀ a ∈ requests.map answer, ends a = false := fun a ha =>
      hopen.goesOn a (List.mem_reverse.mp (hpassed ▸ ha))
    dsimp only
    rw [hsent, hpassed, upTo_of_none_ends hnone, List.length_map]
    exact ⟨rfl, List.prefix_refl _, Nat.lt_add_of_pos_right hwidth, fun _ => rfl⟩
  · simp only [List.length_reverse]
    refine ⟨hended.passed, hended.sent, hended.narrow, fun hnone => ?_⟩
    obtain ⟨request, hmem, hend⟩ := hended.ending
    rw [hnone request hmem] at hend
    cases hend

end CodeRetrieval.Buffer
