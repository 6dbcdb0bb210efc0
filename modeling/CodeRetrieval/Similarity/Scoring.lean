/-
# CodeRetrieval.Similarity.Scoring — how similar the chunks are to a query.

The query is cut into pieces and embedded first; its vectors have to be as many as the pieces and of
one dimension.  Chunks of one digest share a slot, so that each text is embedded once.  The similarity
of a chunk is the mean of its cosines to the pieces.  A chunk without a vector of the query's
dimension gets no score, and of several chunks with one key the first usable one counts.

The cosine of two vectors runs over the coordinates that both have, its three sums from the left.  A vector
of norm zero is similar to nothing.
-/
import CodeRetrieval.Chunk
import CodeRetrieval.Embedding.Provider
import CodeRetrieval.Lexical.Bm25
import CodeRetrieval.Similarity.QueryPieces

namespace CodeRetrieval

/-! ## Cosines -/

/-- The dot product of two vectors and the squares of their norms. -/
structure Products (R : Type) where
  dot : R
  left : R
  right : R

/-- One more pair of coordinates. -/
def Products.add {R : Type} [Scalar R] (p : Products R) (xy : R × R) : Products R :=
  ⟨p.dot + xy.1 * xy.2, p.left + xy.1 * xy.1, p.right + xy.2 * xy.2⟩

/-- The products of two vectors over their common coordinates. -/
def Products.of {R : Type} [Scalar R] (a b : List R) : Products R :=
  (a.zip b).foldl Products.add ⟨Scalar.ofNat 0, Scalar.ofNat 0, Scalar.ofNat 0⟩

/-- The cosine of two vectors, zero if a norm is zero. -/
def cosine {R : Type} [Scalar R] (a b : List R) : R :=
  let p := Products.of a b
  if Scalar.isZero p.left || Scalar.isZero p.right then Scalar.ofNat 0
  else p.dot / (Scalar.sqrt p.left * Scalar.sqrt p.right)

/-! ## Scores -/

namespace Similarity

open Lexical (Scores)

variable {R : Type} [Scalar R]

/-- The texts to embed, newest first, the slot of each digest, and the slots of the chunks so far,
newest first. -/
structure Slots where
  texts : List Text
  ofDigest : Std.HashMap Text Nat
  assigned : List Nat

/-- Give a chunk the slot of its digest, or a new slot. -/
def Slots.assign (slots : Slots) (chunk : Chunk) : Slots :=
  match slots.ofDigest[chunk.digest]? with
  | some slot => { slots with assigned := slot :: slots.assigned }
  | none =>
    let slot := slots.texts.length
    ⟨chunk.text :: slots.texts, slots.ofDigest.insert chunk.digest slot, slot :: slots.assigned⟩

/-- The slots of a list of chunks. -/
def Slots.ofChunks (chunks : List Chunk) : Slots := chunks.foldl Slots.assign ⟨[], ∅, []⟩

/-- The distinct texts in the order of their first chunk. -/
def distinctTexts (chunks : List Chunk) : List Text := (Slots.ofChunks chunks).texts.reverse

/-- The slot of every chunk. -/
def chunkSlots (chunks : List Chunk) : List Nat := (Slots.ofChunks chunks).assigned.reverse

/-- The vectors of a query, one for each piece and all of one dimension. -/
def checkQuery (pieces : List Text) (vectors : List (List R)) : Except Failure (Nat × List (List R)) :=
  match vectors with
  | [] => .error (.embedding .noQueryVector)
  | first :: _ =>
    if vectors.length ≠ pieces.length || vectors.any (fun v => v.length != first.length) then
      .error (.embedding .mixedQueryVectors)
    else .ok (first.length, vectors)

/-- The mean cosine of a vector to the pieces of the query. -/
def meanCosine (query : List (List R)) (vector : List R) : R :=
  Scalar.mean (query.map fun piece => cosine piece vector)

/-- Keep the score of a chunk whose vector has the right dimension, unless its key has one. -/
def record (dimension : Nat) (query : List (List R)) (scores : Scores R)
    (entry : Chunk × Option (List R)) : Scores R :=
  match entry.2 with
  | some vector =>
    if vector.length = dimension then
      scores.insertIfNew entry.1.key (meanCosine query vector)
    else scores
  | none => scores

/-- The scores of chunks for the vectors of a query and those of the distinct texts. -/
def scoreChunks (dimension : Nat) (query : List (List R)) (chunks : List Chunk)
    (embedded : List (Option (List R))) : Scores R :=
  let embedded := embedded.toArray
  let vectors := (chunkSlots chunks).map fun slot => (embedded[slot]?).join
  (chunks.zip vectors).foldl (record dimension query) ∅

/-- The pieces of a query. -/
def pieces (settings : EmbeddingSettings) (query : Text) : List Text :=
  QueryPieces.split query QueryPieces.maxLines QueryPieces.overlap settings.queryTokenLimit

/-- What happens while the batches of a query are under way, and while those of chunks are. -/
structure Schedules where
  query : Buffer.Schedule
  chunks : Buffer.Schedule

/-- All batches are sent and answered in turn. -/
def Schedules.inTurn : Schedules := ⟨[], []⟩

/-- The similarity of every chunk to the query, by key, with the batches sent: those of the query, and
those of the chunks if the query's vectors can be used. -/
def attempt (settings : EmbeddingSettings) (provider : Provider R) (query : Text)
    (chunks : List Chunk) (schedules : Schedules) : Traced (List Text) (Except Failure (Scores R)) :=
  let pieces := pieces settings query
  let asked := provider.embedAll settings.batchSize settings.concurrency pieces schedules.query
  match asked.result >>= checkQuery pieces with
  | .error failure => ⟨asked.sent, .error failure⟩
  | .ok (dimension, vectors) =>
    let embedded := provider.embedTexts settings.batchSize settings.concurrency (distinctTexts chunks)
      schedules.chunks
    ⟨asked.sent ++ embedded.sent, .ok (scoreChunks dimension vectors chunks embedded.result)⟩

/-- The similarity of every chunk to the query, by key. -/
def score (settings : EmbeddingSettings) (provider : Provider R) (query : Text)
    (chunks : List Chunk) (schedules : Schedules := .inTurn) : Except Failure (Scores R) :=
  (attempt settings provider query chunks schedules).result

/-- The batches that scoring sends. -/
def sent (settings : EmbeddingSettings) (provider : Provider R) (query : Text)
    (chunks : List Chunk) (schedules : Schedules := .inTurn) : List (List Text) :=
  (attempt settings provider query chunks schedules).sent

end Similarity

end CodeRetrieval
