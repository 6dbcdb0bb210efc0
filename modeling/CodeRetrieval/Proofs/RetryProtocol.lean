/-
# CodeRetrieval.Proofs.RetryProtocol — which requests a batch costs, and what they come to.

An answer is transient if another attempt may do better, which is said of the answer alone.  A failure
read off an answer is worth repeating exactly if the answer is transient.  So a batch is asked for until
an answer is not transient or the retries are used up, always with the same request, and the last answer
decides what becomes of it.
-/
import CodeRetrieval.Embedding.Client
import CodeRetrieval.Proofs.Backoff

namespace CodeRetrieval.Client

variable {expected : Nat} {vectors : List (List Binary64)} {failure : Failure}

/-! ## What an answer comes to -/

/-- A status that may be another one later: too many requests, or a fault of the server. -/
def TransientStatus (status : Nat) : Prop := status = 429 ∨ 500 ≤ status ∧ status < 600

/-- An answer that may be another one later: none at all, a response of a transient status, or one of
success whose body breaks off. -/
def Transient : Answer → Prop
  | .refused | .closed => True
  | .response status _ => TransientStatus status
  | .broken status => 200 ≤ status ∧ status < 300 ∨ TransientStatus status

/-- What an answer to a request for a number of texts comes to: the vectors of a readable response of
success with one for each text, or else a failure to embed, which is worth repeating if the answer is
transient. -/
structure Settles (expected : Nat) (answer : Answer)
    (outcome : Except Failure (List (List Binary64))) : Prop where
  vectors_iff : ∀ vectors, outcome = .ok vectors ↔ ∃ status body items,
    answer = .response status body ∧ (200 ≤ status ∧ status < 300) ∧
    readItems body = some items ∧ items.length = expected ∧ vectors = (arrange items).map Item.vector
  failure : ∀ failure, outcome = .error failure →
    (∃ fault, failure = .embedding fault) ∧ (failure.isRetryable = true ↔ Transient answer)

theorem isSuccess_iff {status : Nat} : isSuccess status = true ↔ 200 ≤ status ∧ status < 300 := by
  simp [isSuccess]

theorem not_transientStatus_of_isSuccess {status : Nat} (h : isSuccess status = true) :
    ¬ TransientStatus status := by
  rw [isSuccess_iff] at h
  unfold TransientStatus
  omega

theorem isRetryable_refusal_iff (status : Nat) (body : Text) :
    (refusal status body).isRetryable = true ↔ TransientStatus status := by
  simp [refusal, Failure.isRetryable, EmbeddingFault.isPassing, TransientStatus]

theorem readResponse_eq_ok_iff {body : Text} :
    readResponse body expected = .ok vectors ↔ ∃ items, readItems body = some items ∧
      items.length = expected ∧ vectors = (arrange items).map Item.vector := by
  unfold readResponse
  cases readItems body with
  | none => simp
  | some items =>
      by_cases h : items.length = expected
      · simp [h, eq_comm]
      · simp [h]

/-- A response that cannot be used fails for good. -/
theorem lasting_of_readResponse {body : Text} (h : readResponse body expected = .error failure) :
    (∃ fault, failure = .embedding fault) ∧ failure.isRetryable = false := by
  unfold readResponse at h
  cases hitems : readItems body with
  | none =>
      simp only [hitems] at h
      obtain rfl := Except.error.inj h
      exact ⟨⟨_, rfl⟩, rfl⟩
  | some items =>
      simp only [hitems] at h
      split at h
      · obtain rfl := Except.error.inj h
        exact ⟨⟨_, rfl⟩, rfl⟩
      · cases h

/-- An answer without a usable body that is read as a failure to embed. -/
theorem Settles.of_fault {answer : Answer} {fault : EmbeddingFault}
    (hanswer : ∀ status body, answer = .response status body → ¬ (200 ≤ status ∧ status < 300))
    (hfault : fault.isPassing = true ↔ Transient answer) :
    Settles expected answer (.error (.embedding fault)) := by
  constructor
  · intro vectors
    constructor
    · intro h
      cases h
    · rintro ⟨status, body, items, hresponse, hsuccess, -⟩
      exact absurd hsuccess (hanswer status body hresponse)
  · intro failure h
    obtain rfl := Except.error.inj h
    exact ⟨⟨fault, rfl⟩, hfault⟩

theorem settles_readAnswer (expected : Nat) (answer : Answer) :
    Settles expected answer (readAnswer expected answer) := by
  cases answer with
  | refused => exact .of_fault (by simp) (by simp [EmbeddingFault.isPassing, Transient])
  | closed => exact .of_fault (by simp) (by simp [EmbeddingFault.isPassing, Transient])
  | response status body =>
      rw [readAnswer]
      by_cases hstatus : isSuccess status = true
      · rw [if_pos hstatus]
        refine ⟨fun vectors => ?_, fun failure h => ?_⟩
        · rw [readResponse_eq_ok_iff]
          constructor
          · rintro ⟨items, hitems⟩
            exact ⟨status, body, items, rfl, isSuccess_iff.mp hstatus, hitems⟩
          · rintro ⟨status', body', items, hresponse, -, hitems⟩
            cases hresponse
            exact ⟨items, hitems⟩
        · obtain ⟨hembedding, hlasting⟩ := lasting_of_readResponse h
          refine ⟨hembedding, ?_⟩
          show failure.isRetryable = true ↔ TransientStatus status
          simp [hlasting, not_transientStatus_of_isSuccess hstatus]
      · rw [if_neg hstatus]
        refine .of_fault ?_ (isRetryable_refusal_iff status body)
        rintro status' body' hresponse
        cases hresponse
        rwa [← isSuccess_iff]
  | broken status =>
      rw [readAnswer]
      by_cases hstatus : isSuccess status = true
      · rw [if_pos hstatus]
        refine .of_fault (by simp) ?_
        simp [EmbeddingFault.isPassing, Transient, isSuccess_iff.mp hstatus]
      · rw [if_neg hstatus]
        refine .of_fault (by simp) ((isRetryable_refusal_iff status lostBody).trans ?_)
        show TransientStatus status ↔ (200 ≤ status ∧ status < 300) ∨ TransientStatus status
        simp [← isSuccess_iff, hstatus]

/-- An attempt is worth repeating if and only if its answer is transient. -/
theorem mayPass_readAnswer_iff {answer : Answer} :
    Backoff.mayPass (readAnswer expected answer) = true ↔ Transient answer := by
  have hsettles := settles_readAnswer expected answer
  cases h : readAnswer expected answer with
  | ok vectors =>
      obtain ⟨status, body, items, rfl, hsuccess, -⟩ := (hsettles.vectors_iff vectors).mp h
      show false = true ↔ TransientStatus status
      simp [not_transientStatus_of_isSuccess (isSuccess_iff.mpr hsuccess)]
  | error failure => exact (hsettles.failure failure h).2

/-! ## The exchange -/

/-- An exchange that its attempt number `last` brings to an end: every attempt sends the same request, with
the model of the client, the texts in their order and a blank in place of each empty one; the service sees
those that reach it, and the last answer settles the outcome. -/
structure EndsWith (client : Client) (answers : Nat → Answer) (texts : List Text) (last : Nat)
    (exchange : Exchange) : Prop where
  sent : exchange.sent = List.replicate (last + 1) (client.request texts)
  reached : exchange.requests =
    ((List.range (last + 1)).filter fun n => (answers n).isReached).map fun _ => client.request texts
  carries : (client.request texts).model = client.model ∧
    (client.request texts).input = texts.map fun text => if text = [] then [' '] else text
  settles : Settles texts.length (answers last) exchange.outcome

theorem input_request (client : Client) (texts : List Text) :
    (client.request texts).input = texts.map fun text => if text = [] then [' '] else text := by
  show texts.map sendable = _
  simp [sendable]

/-- A batch is asked for until an answer is not transient, but at most once more than there are retries,
and the last answer settles the outcome.  An empty batch costs no request. -/
theorem embed_repeats_while_transient (client : Client) (answers : Nat → Answer) :
    client.embed answers [] = ⟨.ok [], [], []⟩ ∧
    ∀ texts ≠ [], ∃ last : Nat,
      (last : ℕ∞) = min (firstWith fun n => ¬ Transient (answers n)) client.maxRetries ∧
      EndsWith client answers texts last (client.embed answers texts) := by
  refine ⟨rfl, fun texts htexts => ?_⟩
  obtain ⟨last, hlast, hattempts, houtcome⟩ := Backoff.run_ends client.maxRetries firstWait
    fun attempt => readAnswer texts.length (answers attempt)
  have hlasting : ∀ n, Backoff.mayPass (readAnswer texts.length (answers n)) = false ↔
      ¬ Transient (answers n) := by
    intro n
    rw [← Bool.not_eq_true, mayPass_readAnswer_iff]
  simp only [hlasting] at hlast
  have houtcome : (client.embed answers texts).outcome = readAnswer texts.length (answers last) := by
    simp [embed, htexts, houtcome]
  refine ⟨last, hlast, ?_, ?_, ⟨rfl, input_request client texts⟩, ?_⟩
  · simp [embed, htexts, hattempts]
  · simp [embed, htexts, hattempts]
  · rw [houtcome]
    exact settles_readAnswer texts.length (answers last)

/-- A client with two retries. -/
def patient : Client := ⟨none, ['h'], ['m'], 2⟩

/-- A response of two items, the second of them for the first text. -/
def swappedItems : Text :=
  "\x7b\"data\":[\x7b\"index\":1,\"embedding\":[]\x7d,\x7b\"index\":0,\"embedding\":[]\x7d]\x7d".toList

/-- A service that answers the third request; the first one does not reach it. -/
def slowService : Nat → Answer
  | 0 => .refused
  | 1 => .response 503 []
  | _ => .response 200 swappedItems

theorem patient_reaches_slowService :
    [['a'], []] ≠ ([] : List Text) ∧
      (patient.embed slowService [['a'], []]).sent =
        List.replicate 3 (patient.request [['a'], []]) ∧
      (patient.embed slowService [['a'], []]).requests.length = 2 ∧
      (patient.request [['a'], []]).input = [['a'], [' ']] ∧
      ∃ items, readItems swappedItems = some items ∧ items.map Item.index = [some 1, some 0] ∧
        (patient.embed slowService [['a'], []]).outcome = .ok ((arrange items).map Item.vector) := by
  have htexts : [['a'], []] ≠ ([] : List Text) := List.cons_ne_nil _ _
  obtain ⟨last, hlast, hends⟩ := (embed_repeats_while_transient patient slowService).2 _ htexts
  have htransient : ∀ n < 2, ¬ ¬ Transient (slowService n) := by
    intro n hn
    have hcases : n = 0 ∨ n = 1 := by omega
    rcases hcases with rfl | rfl <;> simp [slowService, Transient, TransientStatus]
  -- the third attempt is the last retry
  have htwo : ((2 : Nat) : ℕ∞) =
      min (firstWith fun n => ¬ Transient (slowService n)) patient.maxRetries :=
    min_firstWith (Nat.le_refl 2) htransient (fun hlt => absurd hlt (Nat.lt_irrefl 2))
  obtain rfl : last = 2 := Nat.cast_inj.mp (hlast.trans htwo.symm)
  have hreached : (patient.embed slowService [['a'], []]).requests.length = 2 := by
    rw [hends.reached]
    rfl
  have hread : (readItems swappedItems).map (·.map Item.index) = some [some 1, some 0] := by
    decide +kernel
  obtain ⟨items, hitems, hindices⟩ := Option.map_eq_some_iff.mp hread
  have hcount : items.length = 2 := by
    rw [← List.length_map Item.index, hindices]
    rfl
  refine ⟨htexts, hends.sent, hreached, hends.carries.2, items, hitems, hindices, ?_⟩
  exact (hends.settles.vectors_iff _).mpr
    ⟨200, swappedItems, items, rfl, by omega, hitems, hcount, rfl⟩

end CodeRetrieval.Client
