/-
# CodeRetrieval.Embedding.Buffer — requests under way, and their answers in order.

Several requests can be under way at a time, as many as the buffer is wide.  Their answers come in any
order and are passed on in the order of the requests: an answer that is early is kept in the place of its
request.  With an answer that ends the exchange everything that is still in the buffer is dropped.

When requests are sent and when answers arrive is told by a schedule, a list of events; an event that
cannot happen changes nothing.  Behind the schedule the requests that are left are sent and answered in
turn, so that every exchange comes to its end.
-/

namespace CodeRetrieval

/-- A result, with the requests that were sent on the way to it, in the order in which they were sent. -/
structure Traced (Q A : Type) where
  sent : List Q
  result : A

/-- The requests sent and the answers passed on, newest first; the requests under way, oldest first and
each with its answer as soon as it is there; and those that wait to be sent. -/
structure Buffer (Q A : Type) where
  sent : List Q
  passed : List A
  underway : List (Q × Option A)
  waiting : List Q

namespace Buffer

/-- What can happen: the next request is sent, or the answer to one of those under way arrives. -/
inductive Event where
  | send
  | arrive (place : Nat)

/-- What happens, in its order. -/
abbrev Schedule := List Event

variable {Q A : Type}

/-- Before the first request is sent. -/
def ofRequests (requests : List Q) : Buffer Q A := ⟨[], [], [], requests⟩

/-- Send the next request, if the width leaves room for it. -/
def send (width : Nat) (buffer : Buffer Q A) : Buffer Q A :=
  match buffer.waiting with
  | [] => buffer
  | request :: waiting =>
    if buffer.underway.length < width then
      ⟨request :: buffer.sent, buffer.passed, buffer.underway ++ [(request, none)], waiting⟩
    else buffer

/-- The answer to the request at a place arrives. -/
def arrive (answer : Q → A) (place : Nat) (buffer : Buffer Q A) : Buffer Q A :=
  { buffer with underway := buffer.underway.modify place fun entry => (entry.1, some (answer entry.1)) }

/-- Pass on the answers that are there, up to the first request whose answer is not, or to an answer that
ends the exchange. -/
def passOn (ends : A → Bool) (sent : List Q) (passed : List A) (waiting : List Q) :
    List (Q × Option A) → Buffer Q A
  | (_, some answer) :: rest =>
    if ends answer then ⟨sent, answer :: passed, [], []⟩
    else passOn ends sent (answer :: passed) waiting rest
  | underway => ⟨sent, passed, underway, waiting⟩

/-- Something happens. -/
def step (answer : Q → A) (ends : A → Bool) (width : Nat) (buffer : Buffer Q A) :
    Event → Buffer Q A
  | .send => buffer.send width
  | .arrive place =>
    let arrived := buffer.arrive answer place
    passOn ends arrived.sent arrived.passed arrived.waiting arrived.underway

/-- A number of requests sent and answered one after the other. -/
def inTurn (count : Nat) : Schedule := (List.replicate count [.send, .arrive 0]).flatten

/-- Send requests through a buffer of a width under a schedule: the answers passed on. -/
def exchange (answer : Q → A) (ends : A → Bool) (width : Nat) (schedule : Schedule)
    (requests : List Q) : Traced Q (List A) :=
  let final := (schedule ++ inTurn requests.length).foldl (step answer ends width) (ofRequests requests)
  ⟨final.sent.reverse, final.passed.reverse⟩

end Buffer

end CodeRetrieval
