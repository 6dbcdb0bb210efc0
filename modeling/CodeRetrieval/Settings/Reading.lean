/-
# CodeRetrieval.Settings.Reading — settings read from a TOML document.

Every group of settings is a table of the document, and every setting a key of its table; what is
missing keeps its standard value and unknown keys are passed over.  A group may also be an array of its
settings in order.  Then trailing settings may be missing, except those without a standard value, and
further items are passed over.
-/
import CodeRetrieval.Failure
import CodeRetrieval.Settings
import CodeRetrieval.Toml.Document

namespace CodeRetrieval.Settings.Reading

open Toml (Value)

/-! ## Single settings -/

/-- A natural number below a bound. -/
def natural (bound : Nat) : Value → Option Nat
  | .integer n => if 0 ≤ n ∧ n < bound then some n.toNat else none
  | _ => none

/-- A natural number. -/
def count : Value → Option Nat := natural (twoTo 64)

/-- A double, which may be written as an integer. -/
def real : Value → Option Binary64
  | .float x => some x
  | .integer n =>
    let x : Binary64 := Binary64.ofFloat (Float.ofNat n.natAbs)
    some (if n < 0 then x.neg else x)
  | _ => none

/-- A text. -/
def text : Value → Option Text
  | .text t => some t
  | _ => none

/-- A list of texts. -/
def texts : Value → Option (List Text)
  | .array items => items.mapM text
  | _ => none

/-- A setting that keeps its standard value if it is missing. -/
def setting {α : Type} (read : Value → Option α) (standard : α) : Option Value → Option α
  | none => some standard
  | some value => read value

/-- A setting that is absent if it is missing. -/
def optional {α : Type} (read : Value → Option α) : Option Value → Option (Option α)
  | none => some none
  | some value => (read value).map some

/-! ## Groups -/

/-- The settings of a group by their names: of a table by key, of an array by position.  An array has to
reach at least `least` items.  A date counts as a table of unknown keys. -/
def fields (names : List String) (least : Nat) : Value → Option (List (Option Value))
  | .table entries =>
    some (names.map fun name => (entries.find? (fun e => e.1 == name.toList)).map (·.2))
  | .array items =>
    if items.length < least then none
    else some ((List.range names.length).map fun i => items[i]?)
  | .dateTime => some (names.map fun _ => none)
  | _ => none

/-- How files are cut. -/
def chunking (value : Value) : Option ChunkSettings := do
  let s := ChunkSettings.standard
  match ← fields ["max_chars", "coalesce", "naive_line_count", "naive_overlap"] 0 value with
  | [budget, threshold, lines, overlap] =>
    return ⟨← setting count s.budget budget, ← setting count s.threshold threshold,
      ← setting count s.windowLines lines, ← setting count s.windowOverlap overlap⟩
  | _ => none

/-- Which files are taken. -/
def walk (value : Value) : Option WalkSettings := do
  let s := WalkSettings.standard
  match ← fields ["min_file_bytes", "max_file_bytes", "max_dir_files", "max_avg_line_length",
      "exclude_dirs", "exclude_exts", "skip_patterns"] 0 value with
  | [low, high, siblings, line, dirs, suffixes, patterns] =>
    return ⟨← setting count s.minBytes low, ← setting count s.maxBytes high,
      ← setting count s.maxSiblings siblings, ← setting count s.maxMeanLine line,
      ← setting texts s.excludedDirs dirs, ← setting texts s.excludedSuffixes suffixes,
      ← setting texts s.skipPatterns patterns⟩
  | _ => none

/-- How texts are embedded.  The key and the address have no standard value, so an array has to reach
behind them. -/
def embedding (value : Value) : Option EmbeddingSettings := do
  let s := EmbeddingSettings.standard
  match ← fields ["provider", "model", "api_key", "base_url", "batch_size", "concurrency",
      "max_retries", "query_token_limit"] 4 value with
  | [provider, model, key, url, size, concurrency, retries, limit] =>
    return ⟨← setting text s.provider provider, ← setting text s.model model, ← optional text key,
      ← optional text url, ← setting count s.batchSize size, ← setting count s.concurrency concurrency,
      ← setting (natural (twoTo 32)) s.maxRetries retries, ← setting count s.queryTokenLimit limit⟩
  | _ => none

/-- The parameters of the keyword score. -/
def keyword (value : Value) : Option (KeywordSettings Binary64) := do
  let s := KeywordSettings.standard (R := Binary64)
  match ← fields ["k1", "b"] 0 value with
  | [k1, b] => return ⟨← setting real s.k1 k1, ← setting real s.b b⟩
  | _ => none

/-- How scores are blended. -/
def rank (value : Value) : Option (RankSettings Binary64) := do
  let s := RankSettings.standard (R := Binary64)
  match ← fields ["top_k", "default_vector_score", "vector_weight", "vector_only_factor"] 0 value with
  | [topK, absent, weight, factor] =>
    return ⟨← setting count s.topK topK, ← setting real s.absentSimilarity absent,
      ← setting real s.weight weight, ← setting real s.soleFactor factor⟩
  | _ => none

/-- All settings. -/
def all (value : Value) : Option (Settings Binary64) := do
  match ← fields ["chunking", "walker", "embedding", "lexical", "ranking"] 0 value with
  | [c, w, e, k, r] =>
    return ⟨← setting chunking .standard c, ← setting walk .standard w, ← setting embedding .standard e,
      ← setting keyword .standard k, ← setting rank .standard r⟩
  | _ => none

end Reading

/-- The settings of a document. -/
def ofToml (document : Text) : Except Failure (Settings Binary64) :=
  match (Toml.parse document).bind Reading.all with
  | some settings => .ok settings
  | none => .error (.toml (Text.ofString "invalid settings"))

end CodeRetrieval.Settings
