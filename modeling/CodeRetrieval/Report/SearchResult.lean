/-
# CodeRetrieval.Report.SearchResult — a ranked chunk as it leaves the program.

Line numbers are numbers of thirty-two bits, larger ones lose their high bits.  In JSON a result is an
object of seven members.  Reading is strict about the seven and lenient about the rest: other members
are passed over, a missing keyword score is none, and an array of the seven values in order is a result
too.
-/
import CodeRetrieval.Json.Basic
import CodeRetrieval.Ranking

namespace CodeRetrieval.Report

/-- A ranked chunk by its path, lines, shown text and scores. -/
structure SearchResult where
  path : Path
  first : Nat
  last : Nat
  snippet : Text
  score : Binary64
  keyword : Option Binary64
  similarity : Binary64

namespace SearchResult

/-- Line numbers have thirty-two bits. -/
def lineBound : Nat := twoTo 32

/-- The result of a ranked chunk. -/
def ofRanked (r : Ranked Binary64) : SearchResult where
  path := r.chunk.path
  first := r.chunk.first % lineBound
  last := r.chunk.last % lineBound
  snippet := r.chunk.snippet true true
  score := r.score
  keyword := r.keyword
  similarity := r.similarity

/-- The key of the result. -/
def key (r : SearchResult) : Text := Chunk.denote r.path r.first r.last

/-- The names of the members, in order. -/
def memberNames : List String :=
  ["filePath", "lineStart", "lineEnd", "snippet", "score", "lexicalScore", "vectorScore"]

/-- The result in JSON, its scores written by `number`. -/
def toJson (number : Binary64 → Json) (r : SearchResult) : Json :=
  Json.ofMembers (memberNames.zip
    [Json.ofText r.path, Json.ofNat r.first, Json.ofNat r.last, Json.ofText r.snippet,
     number r.score, (r.keyword.map number).getD Json.null, number r.similarity])

/-- A line number. -/
def lineOf? (value : Json) : Option Nat := do
  let n ← value.toNat?
  if n < lineBound then return n else none

/-- A score that may be null. -/
def keywordOf? : Json → Option (Option Binary64)
  | .null => some none
  | value => value.toBinary64?.map some

/-- The result of its seven values. -/
def ofValues? : List Json → Option SearchResult
  | [path, first, last, snippet, score, keyword, similarity] => do
    return ⟨← path.toText?, ← lineOf? first, ← lineOf? last, ← snippet.toText?, ← score.toBinary64?,
      ← keywordOf? keyword, ← similarity.toBinary64?⟩
  | _ => none

/-- The value of a member that may be there once at most. -/
def member? (members : List (Option Text × Json)) (name : String) : Option Json :=
  match members.filter (·.1 == some name.toList) with
  | [] => if name = "lexicalScore" then some .null else none
  | [(_, value)] => some value
  | _ => none

/-- The result that a JSON value stands for. -/
def ofJson? : Json → Option SearchResult
  | .array values => ofValues? values
  | .object members =>
    if members.any (·.1.isNone) then none
    else do ofValues? (← memberNames.mapM (member? members))
  | _ => none

end SearchResult

end CodeRetrieval.Report
