/-
# CodeRetrieval.Settings — the settings of a retrieval run.

Five groups: how files are cut, which files are taken, how texts are embedded, the two parameters of
the keyword score and the constants that blend the scores.  `standard` is the value of each group when
nothing is configured.
-/
import CodeRetrieval.Number.Scalar
import CodeRetrieval.Text.Basic

namespace CodeRetrieval

/-- How a file is cut into chunks: the most bytes of a span cut along the syntax, the number of
characters a chunk has to exceed, and the length and overlap of line windows. -/
structure ChunkSettings where
  budget : Nat
  threshold : Nat
  windowLines : Nat
  windowOverlap : Nat
deriving DecidableEq, Repr

/-- The cut when nothing is configured. -/
def ChunkSettings.standard : ChunkSettings := ⟨2000, 80, 50, 0⟩

/-- Which files of a directory tree are taken. -/
structure WalkSettings where
  minBytes : Nat
  maxBytes : Nat
  maxSiblings : Nat
  maxMeanLine : Nat
  excludedDirs : List Text
  excludedSuffixes : List Text
  skipPatterns : List Text

/-- Directories left out when nothing is configured. -/
def WalkSettings.standardDirs : List String :=
  [".git", ".vscode", ".idea", "node_modules", "build", "dist", "target", "package-lock.json", ".venv",
   "venv", "patch", "packages/blobs", ".docker"]

/-- Endings of file names left out when nothing is configured: repository files and documents, images,
sound and film, fonts, bundled web files, lock and build products, archives and data. -/
def WalkSettings.standardSuffixes : List String :=
  [".gitignore", ".md", "LICENSE", ".sh", ".patch",
   ".png", ".jpg", ".jpeg", ".gif", ".ico", ".bmp", ".tiff", ".svg", ".webp",
   ".mp3", ".mp4", ".avi", ".mkv", ".mov", ".wav", ".ogg", ".flac", ".iso", ".bin",
   ".woff", ".woff2", ".eot", ".otf", ".ttf",
   ".min.js", ".min.js.map", ".min.css", ".min.css.map", ".css", ".scss", ".less",
   ".lock", "pnpm-lock.yaml", ".pyc", ".coverage", ".jar", ".class", ".o", ".so",
   ".dll", ".exe", ".tfstate", ".ipynb",
   ".tar", ".zip", ".7z", ".gz", ".rar", ".pdf", ".xml", ".yml", ".yaml", ".csv"]

/-- The filters when nothing is configured. -/
def WalkSettings.standard : WalkSettings where
  minBytes := 10
  maxBytes := 240000
  maxSiblings := 240
  maxMeanLine := 200
  excludedDirs := standardDirs.map Text.ofString
  excludedSuffixes := standardSuffixes.map Text.ofString
  skipPatterns := []

/-- How texts are embedded. -/
structure EmbeddingSettings where
  provider : Text
  model : Text
  apiKey : Option Text
  baseUrl : Option Text
  batchSize : Nat
  concurrency : Nat
  maxRetries : Nat
  queryTokenLimit : Nat

/-- The embedding when nothing is configured. -/
def EmbeddingSettings.standard : EmbeddingSettings where
  provider := Text.ofString "openai"
  model := Text.ofString "text-embedding-3-small"
  apiKey := none
  baseUrl := none
  batchSize := 64
  concurrency := 4
  maxRetries := 5
  queryTokenLimit := 8191

/-- The parameters of the keyword score: how fast repeated terms saturate, and how much the length of
a document counts. -/
structure KeywordSettings (R : Type) where
  k1 : R
  b : R

/-- The keyword parameters when nothing is configured. -/
def KeywordSettings.standard {R : Type} [Scalar R] : KeywordSettings R := ⟨1.2, 0.75⟩

/-- How scores are blended: the number of results, the similarity of a chunk without one, the weight of
the similarity beside a keyword score, and its factor without one. -/
structure RankSettings (R : Type) where
  topK : Nat
  absentSimilarity : R
  weight : R
  soleFactor : R

/-- The blend when nothing is configured. -/
def RankSettings.standard {R : Type} [Scalar R] : RankSettings R := ⟨10, 0.04, 3.5, 0.02⟩

/-- All settings. -/
structure Settings (R : Type) where
  chunking : ChunkSettings
  walk : WalkSettings
  embedding : EmbeddingSettings
  keyword : KeywordSettings R
  rank : RankSettings R

/-- The settings when nothing is configured. -/
def Settings.standard {R : Type} [Scalar R] : Settings R :=
  ⟨.standard, .standard, .standard, .standard, .standard⟩

end CodeRetrieval
