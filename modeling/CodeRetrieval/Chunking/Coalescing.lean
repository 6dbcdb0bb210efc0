/-
# CodeRetrieval.Chunking.Coalescing — small spans merged into chunks worth reading.

A chunk is finished once it holds more than a threshold of characters that are not blank and a line
feed.  A span that opens with a closing bracket belongs to what it closes: it joins the chunk finished
before it.
-/
import CodeRetrieval.Span

namespace CodeRetrieval

/-- The brackets that close. -/
def closers : List Char := [')', '}', ']']

/-- Whether the first character that is not blank closes a bracket. -/
def opensWithCloser (text : Text) : Bool :=
  match text.trimStart with
  | [] => false
  | c :: _ => closers.contains c

/-- Whether a text is enough for a chunk of its own. -/
def isSubstantial (threshold : Nat) (text : Text) : Bool :=
  threshold < text.nonBlankCount && text.contains '\n'

/-- The finished spans, newest first, and the span still growing. -/
structure Coalescing where
  finished : List Span
  growing : Span

namespace Coalescing

/-- Before the first span. -/
def initial : Coalescing := ⟨[], Span.emptyAt 0⟩

/-- Take one more span. -/
def step (source : Text) (threshold : Nat) (state : Coalescing) (span : Span) : Coalescing :=
  let grown := state.growing.reach span
  let text := grown.text source
  match opensWithCloser text, state.finished with
  | true, previous :: earlier => ⟨previous.reach span :: earlier, Span.emptyAt span.stop⟩
  | _, finished =>
    if isSubstantial threshold text then ⟨grown :: finished, Span.emptyAt span.stop⟩
    else ⟨finished, grown⟩

/-- All spans in order, with what was still growing unless it is empty. -/
def spans (state : Coalescing) : List Span :=
  (if state.growing.isEmpty then state.finished else state.growing :: state.finished).reverse

end Coalescing

/-- Merge spans of a source until each is substantial. -/
def coalesce (threshold : Nat) (source : Text) (spans : List Span) : List Span :=
  (spans.foldl (Coalescing.step source threshold) Coalescing.initial).spans

end CodeRetrieval
