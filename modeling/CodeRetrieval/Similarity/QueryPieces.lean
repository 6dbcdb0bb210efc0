/-
# CodeRetrieval.Similarity.QueryPieces — a long query cut into pieces.

A query is as many tokens long as a quarter of its characters.  Below the limit it stays whole.
Otherwise it is read as a diff: a piece starts at every header of a file, and a piece that reaches the
line limit is closed and the next one opened with the current header and the last lines of the closed
one.
-/
import CodeRetrieval.Text.Basic

namespace CodeRetrieval.QueryPieces

/-- The lines of a piece of a diff query at most. -/
def maxLines : Nat := 200

/-- The lines that a piece repeats of the one before it. -/
def overlap : Nat := 15

/-- What follows an opening text, if a text opens with it. -/
def after? (opening text : Text) : Option Text :=
  if opening.isPrefixOf text then some (text.drop opening.length) else none

/-- Whether ` b/` occurs with a character behind it. -/
def namesSecondFile : Text → Bool
  | [] => false
  | c :: rest =>
    (match after? [' ', 'b', '/'] (c :: rest) with
      | some (_ :: _) => true
      | _ => false) || namesSecondFile rest

/-- Whether a line names two files, as in `a/main.c b/main.c`. -/
def namesFiles (line : Text) : Bool :=
  match after? ['a', '/'] line with
  | some (_ :: rest) => namesSecondFile rest
  | _ => false

/-- Whether a line is the header of a file in a diff. -/
def isHeader (line : Text) : Bool :=
  namesFiles line ||
    match after? (Text.ofString "diff --git ") line with
    | some rest => namesFiles rest
    | none => false

/-- The closed pieces, newest first, the lines of the open one, newest first, and the current header. -/
structure State where
  closed : List (List Text)
  pending : List Text
  header : Option Text

/-- Before the first line. -/
def State.initial : State := ⟨[], [], none⟩

/-- The closed pieces with the open one, if it has a line. -/
def State.close (state : State) : List (List Text) :=
  if state.pending.isEmpty then state.closed else state.pending.reverse :: state.closed

/-- Read a line. -/
def State.step (limit overlap : Nat) (state : State) (line : Text) : State :=
  if isHeader line then ⟨state.close, [line], some line⟩
  else
    let pending := line :: state.pending
    if max limit 1 ≤ pending.length then
      ⟨pending.reverse :: state.closed, pending.take overlap ++ state.header.toList, state.header⟩
    else { state with pending := pending }

/-- The pieces of a diff, each as its lines. -/
def ofLines (limit overlap : Nat) (lines : List Text) : List (List Text) :=
  (lines.foldl (State.step limit overlap) State.initial).close.reverse

/-- The pieces of a query. -/
def split (query : Text) (limit overlap tokenLimit : Nat) : List Text :=
  if query.length / 4 < tokenLimit then [query]
  else (ofLines limit overlap (Text.split '\n' query)).map (Text.join ['\n'])

end CodeRetrieval.QueryPieces
