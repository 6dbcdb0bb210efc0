/-
# CodeRetrieval.Embedding.Backoff — an operation repeated while its failures may pass.

Between two attempts the caller waits; the first wait is given and each further one doubles, up to the
longest duration that can be told.  Attempts end with the first outcome that is not worth repeating,
or when the retries are used up.  There is no wait behind the last attempt.
-/
import CodeRetrieval.Basic
import CodeRetrieval.Failure

namespace CodeRetrieval.Backoff

/-- The longest duration, in nanoseconds: all seconds of sixty-four bits and all but one billionth of
another. -/
def longest : Nat := (twoTo 64 - 1) * tenTo 9 + 999999999

/-- Twice a duration, at most the longest. -/
def double (delay : Nat) : Nat := min (2 * delay) longest

/-- What happens in a run: an attempt, told by its number, or a wait. -/
inductive Event where
  | attempt (number : Nat)
  | wait (delay : Nat)
deriving DecidableEq

/-- Whether an event is an attempt. -/
def Event.isAttempt : Event → Bool
  | attempt _ => true
  | wait _ => false

/-- How long an event waits, if it is a wait. -/
def Event.delay? : Event → Option Nat
  | attempt _ => none
  | wait delay => some delay

/-- The outcome of the last attempt, and the attempts and waits in the order they took place. -/
structure Run (α : Type) where
  outcome : Except Failure α
  events : List Event

/-- The number of attempts. -/
def Run.attempts {α : Type} (run : Run α) : Nat := run.events.countP Event.isAttempt

/-- The waits, in their order. -/
def Run.waits {α : Type} (run : Run α) : List Nat := run.events.filterMap Event.delay?

/-- Whether an outcome is worth another attempt. -/
def mayPass {α : Type} : Except Failure α → Bool
  | .ok _ => false
  | .error failure => failure.isRetryable

/-- Attempt number `attempt` and those after it, with a number of retries left. -/
def runFrom {α : Type} (operation : Nat → Except Failure α) (attempt delay : Nat) : Nat → Run α
  | 0 => ⟨operation attempt, [.attempt attempt]⟩
  | retries + 1 =>
    if mayPass (operation attempt) then
      let rest := runFrom operation (attempt + 1) (double delay) retries
      ⟨rest.outcome, .attempt attempt :: .wait delay :: rest.events⟩
    else ⟨operation attempt, [.attempt attempt]⟩

/-- Run an operation, told the number of each attempt from zero, with at most `retries` retries and a
first wait of `delay` nanoseconds. -/
def run {α : Type} (retries delay : Nat) (operation : Nat → Except Failure α) : Run α :=
  runFrom operation 0 delay retries

end CodeRetrieval.Backoff
