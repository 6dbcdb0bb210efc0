/-
# CodeRetrieval.Corpus — files and the chunks they are cut into.

A file that was parsed is cut along its tree, any other one in line windows.  An empty file has no
chunk.  The window settings are checked first, whatever the file.  A corpus holds all chunks of one run,
in the order of the files and within a file in the order of the lines.  For the keyword search each chunk
is a document titled by its key.
-/
import CodeRetrieval.Chunk
import CodeRetrieval.Chunking.LineRanges
import CodeRetrieval.Chunking.Windows
import CodeRetrieval.Lexical.Index
import CodeRetrieval.Settings

namespace CodeRetrieval

/-! ## Files -/

/-- A file of the repository: its path, its language, its text, and its tree if it could be parsed. -/
structure SourceFile where
  path : Path
  language : Language
  content : Text
  tree : Option SyntaxTree

namespace SourceFile

/-- The tree that the file is cut along: none for plain text. -/
def cuttingTree (file : SourceFile) : Option SyntaxTree :=
  if file.language.hasGrammar then file.tree else none

/-- The line ranges of the chunks, first and last line counted from one. -/
def ranges (settings : ChunkSettings) (file : SourceFile) : Except Failure (List Span) :=
  let count := file.content.lineCount
  match file.cuttingTree with
  | some tree =>
    .ok ((tree.lineRanges file.content settings.budget settings.threshold).map fun range =>
      ⟨range.start + 1, min (range.stop + 1) count⟩)
  | none =>
    lineWindows (wordsFor count settings.windowLines) count settings.windowLines settings.windowOverlap

/-- The chunks of the file in line order. -/
def chunks (settings : ChunkSettings) (file : SourceFile) : Except Failure (List Chunk) := do
  checkWindow settings.windowLines settings.windowOverlap
  if file.content.lineCount = 0 then return []
  let ranges ← file.ranges settings
  return ranges.map fun range => ⟨file.content, file.path, range.start, range.stop, file.language⟩

end SourceFile

/-! ## All chunks -/

/-- The chunks that a query is ranked against. -/
structure Corpus where
  chunks : List Chunk

namespace Corpus

/-- The chunks of a list of files; the first file whose settings are refused decides. -/
def ofFiles (settings : ChunkSettings) (files : List SourceFile) : Except Failure Corpus := do
  let perFile ← files.mapM (SourceFile.chunks settings)
  return ⟨perFile.flatten⟩

/-- The document of a chunk. -/
def document (chunk : Chunk) : Document := ⟨chunk.key, chunk.text⟩

/-- The documents of all chunks. -/
def documents (corpus : Corpus) : List Document := corpus.chunks.map document

end Corpus

end CodeRetrieval
