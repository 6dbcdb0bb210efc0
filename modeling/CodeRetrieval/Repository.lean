/-
# CodeRetrieval.Repository — a directory tree made into a corpus.

The walk decides which files are taken, by the ignore rules of the tree and the patterns of the settings;
a parser gives each its tree where it can, and the files are cut into chunks.  Faults of the settings come
to light in this order: patterns of files to skip before the walk, line windows when the first file is cut.
A directory without a file to cut therefore gives the empty corpus whatever the line windows are.
-/
import CodeRetrieval.Files.IgnoreRules
import CodeRetrieval.Files.Walk
import CodeRetrieval.Retrieval

namespace CodeRetrieval.Repository

/-- What a parser makes of a text in a language: a tree, where it accepts the text. -/
abbrev Parser := Language → Text → Option SyntaxTree

/-- A source file of a language, at a path as it is written. -/
def sourceFile (parser : Parser) (path : Path) (language : Language) (content : Text) : SourceFile :=
  ⟨path, language, content, parser language content⟩

/-- The source file that the walk takes. -/
def sourceOf (parser : Parser) (file : Files.Taken) : SourceFile :=
  sourceFile parser (Files.pathOf file.names).shown file.language file.content

/-- Walk a directory by the ignore rules of the tree. -/
def walk (settings : WalkSettings) (top : Files.Entries) (root : RawPath) (shown : Path) :
    Except Failure Files.Sorting :=
  Files.walk Files.SkipPattern.globs (Files.isIgnored top) settings top root shown

variable {R : Type} [Scalar R]

/-- The corpus of a directory. -/
def index (settings : Settings R) (parser : Parser) (top : Files.Entries) (root : RawPath)
    (shown : Path) : Except Failure Corpus := do
  let sorting ← walk settings.walk top root shown
  Corpus.ofFiles settings.chunking (sorting.files.map (sourceOf parser))

/-- The best chunks of a directory for a query. -/
def retrieve (settings : Settings R) (parser : Parser) (provider : Option (Provider R))
    (top : Files.Entries) (root : RawPath) (shown : Path) (query : Text) :
    Except Failure (List (Ranked R)) := do
  let corpus ← index settings parser top root shown
  Retrieval.rank settings provider corpus query

end CodeRetrieval.Repository
