/-
# CodeRetrieval.Embedding.Provider — texts turned into vectors, batch by batch.

A provider answers a batch of texts with one vector for each, or fails.  Batches go through a buffer, so
that several are under way at a time.  When the texts of chunks are embedded, a batch that fails or is
answered with a wrong number of vectors leaves its own texts without a vector and touches no other.  When a
query is embedded, the first batch that fails ends the attempt.
-/
import CodeRetrieval.Basic
import CodeRetrieval.Embedding.Buffer
import CodeRetrieval.Failure

namespace CodeRetrieval

/-- The answer to a batch of texts. -/
abbrev Provider (R : Type) := List Text → Except Failure (List (List R))

namespace Provider

variable {R : Type}

/-- The vectors of a batch, none of them if the answer cannot be used. -/
def entries (batch : List Text) : Except Failure (List (List R)) → List (Option (List R))
  | .ok vectors =>
    if vectors.length = batch.length then vectors.map some else List.replicate batch.length none
  | .error _ => List.replicate batch.length none

/-- One vector, or none, for every text.  A `size` and a `width` of zero count as one. -/
def embedTexts (provider : Provider R) (size width : Nat) (texts : List Text)
    (schedule : Buffer.Schedule := []) : Traced (List Text) (List (Option (List R))) :=
  let exchange := Buffer.exchange provider (fun _ => false) (max width 1) schedule (batches size texts)
  ⟨exchange.sent, ((batches size texts).zip exchange.result).flatMap fun answered =>
    entries answered.1 answered.2⟩

/-- Whether an answer is a failure. -/
def isFailure (answer : Except Failure (List (List R))) : Bool := !answer.isOk

/-- The vectors of all batches, or the first failure. -/
def embedAll (provider : Provider R) (size width : Nat) (texts : List Text)
    (schedule : Buffer.Schedule := []) :
    Traced (List Text) (Except Failure (List (List R))) :=
  let exchange := Buffer.exchange provider isFailure (max width 1) schedule (batches size texts)
  ⟨exchange.sent, (exchange.result.mapM fun answer => answer).map List.flatten⟩

end Provider

end CodeRetrieval
