/-
# CodeRetrieval.Chunk — line windows of a file.

A chunk holds the whole text of its file and addresses lines by their numbers, counted from one and
both ends included.  `window` is the list of its numbered lines, and all renderings go through it.
Its key, `path:first-last`, is what scores of a chunk are kept under.
-/
import CodeRetrieval.Digest.Sha256
import CodeRetrieval.Path
import CodeRetrieval.Text.Lines

namespace CodeRetrieval

/-- Lines `first` to `last` of a file. -/
structure Chunk where
  content : Text
  path : Path
  first : Nat
  last : Nat
  language : Language

namespace Chunk

/-- The key of a path and a range of lines. -/
def denote (path : Path) (first last : Nat) : Text :=
  path ++ ':' :: Text.ofNat first ++ '-' :: Text.ofNat last

/-- The key of the chunk. -/
def key (chunk : Chunk) : Text := denote chunk.path chunk.first chunk.last

/-- The number of lines of the whole file. -/
def fileLines (chunk : Chunk) : Nat := chunk.content.lineCount

/-- The lines of the chunk that the file has, each with its number. -/
def window (chunk : Chunk) : List (Text × Nat) :=
  ((chunk.content.lines.zipIdx 1).drop (chunk.first - 1)).take
    ((chunk.last + 1) - max chunk.first 1)

/-- The lines of the chunk as one text. -/
def text (chunk : Chunk) : Text := Text.joinLines (chunk.window.map (·.1))

/-- A line behind its number. -/
def numberedLine (line : Text × Nat) : Text := Text.ofNat line.2 ++ ':' :: ' ' :: line.1

/-- The chunk as it is shown: lines numbered or plain, with or without an ellipsis where the file goes
on before and behind the chunk. -/
def snippet (chunk : Chunk) (ellipsis numbered : Bool) : Text :=
  let body := Text.joinLines (chunk.window.map fun line => if numbered then numberedLine line else line.1)
  let before := if ellipsis && decide (1 < chunk.first) then ['.', '.', '.', '\n'] else []
  let behind := if ellipsis && decide (chunk.last < chunk.fileLines) then ['\n', '.', '.', '.'] else []
  before ++ body ++ behind

/-- The digest of a text in its UTF-8 form. -/
def digestOf (text : Text) : Text := Sha256.hex (String.ofList text).toUTF8.toList

/-- The digest of the chunk's lines: chunks of one digest are embedded once. -/
def digest (chunk : Chunk) : Text := digestOf chunk.text

end Chunk

end CodeRetrieval
