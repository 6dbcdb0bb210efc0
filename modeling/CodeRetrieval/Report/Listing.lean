/-
# CodeRetrieval.Report.Listing — ranked chunks and the chunks of a file as they are printed.

Each listing has three forms.  Plain text names a chunk by its key and shows its numbered lines, of a
ranked chunk the first three; Markdown puts each chunk into a section with a code block; JSON is one
indented array.  Scores are rounded to three or four places except in JSON, where they read back.
-/
import CodeRetrieval.Json.Printer
import CodeRetrieval.Report.Format
import CodeRetrieval.Report.SearchResult

namespace CodeRetrieval.Report

/-- A text put together from strings and texts. -/
def concat (parts : List Text) : Text := parts.flatten

/-- A section of Markdown: a heading and a code block. -/
def codeSection (heading : Text) (language : Language) (code : Text) : Text :=
  concat [Text.ofString "## ", heading, Text.ofString "\n\n\x60\x60\x60", Text.ofString language.name,
    ['\n'], code, Text.ofString "\n\x60\x60\x60\n\n"]

/-- A key as it stands in a heading. -/
def codeSpan (key : Text) : Text := '\x60' :: key ++ ['\x60']

/-- A JSON value on lines of its own. -/
def jsonLines (json : Json) : Text := json.pretty ++ ['\n']

/-! ## Ranked chunks -/

/-- What is printed when nothing was found. -/
def nothingFound : Text := Text.ofString "No results found.\n"

/-- The number of lines that a plain listing shows of a ranked chunk. -/
def previewLines : Nat := 3

/-- The first lines of a ranked chunk, indented. -/
def preview (chunk : Chunk) : Text :=
  Text.joinLines (((chunk.snippet false true).lines.take previewLines).map (Text.ofString "   " ++ ·))

/-- A ranked chunk in plain text, at its place in the list. -/
def rankedText (entry : Ranked Binary64 × Nat) : Text :=
  let (r, place) := entry
  let keyword := (r.keyword.map (Decimal.fixed 3)).getD ['-']
  concat [Text.ofNat place, ['.', ' '], r.chunk.key, Text.ofString " (score: ", Decimal.fixed 4 r.score,
    Text.ofString ", lexical: ", keyword, Text.ofString ", vector: ", Decimal.fixed 3 r.similarity,
    Text.ofString ")\n", preview r.chunk, ['\n', '\n']]

/-- A ranked chunk in Markdown, at its place in the list. -/
def rankedSection (entry : Ranked Binary64 × Nat) : Text :=
  let (r, place) := entry
  codeSection
    (concat [Text.ofNat place, ['.', ' '], codeSpan r.chunk.key, Text.ofString " (score: ",
      Decimal.fixed 4 r.score, [')']])
    r.chunk.language (r.chunk.snippet true true)

/-- Ranked chunks as they are printed, numbered from one. -/
def printRanked (format : Format) (found : List (Ranked Binary64)) : Text :=
  match format with
  | .json => jsonLines (.array (found.map fun r => (SearchResult.ofRanked r).toJson Json.ofBinary64))
  | .markdown =>
    if found.isEmpty then nothingFound
    else Text.ofString "# Search Results\n\n" ++ (found.zipIdx 1).flatMap rankedSection
  | .text => if found.isEmpty then nothingFound else (found.zipIdx 1).flatMap rankedText

/-! ## The chunks of a file -/

/-- A chunk in JSON. -/
def chunkJson (chunk : Chunk) : Json :=
  Json.ofMembers
    [("filePath", Json.ofText chunk.path), ("lineEnd", Json.ofNat chunk.last),
     ("lineStart", Json.ofNat chunk.first), ("text", Json.ofText chunk.text)]

/-- A chunk in plain text, below a line that holds its key. -/
def chunkText (chunk : Chunk) : Text :=
  concat [Text.ofString "── ", chunk.key, Text.ofString " ──\n", chunk.snippet false true, ['\n', '\n']]

/-- A chunk in Markdown. -/
def chunkSection (chunk : Chunk) : Text :=
  codeSection (codeSpan chunk.key) chunk.language (chunk.snippet false true)

/-- Chunks as they are printed; a plain listing ends with their number. -/
def printChunks (format : Format) (chunks : List Chunk) : Text :=
  match format with
  | .json => jsonLines (.array (chunks.map chunkJson))
  | .markdown => Text.ofString "# Chunks\n\n" ++ chunks.flatMap chunkSection
  | .text => concat [chunks.flatMap chunkText, Text.ofNat chunks.length, Text.ofString " chunks\n"]

end CodeRetrieval.Report
