/-
# CodeRetrieval.CommandLine.Program — what a command line does.

A run sees a directory, the standard input, the environment, a parser and an embedding service, and
leaves a text for the standard output and a directory.  Only writing the settings file changes the
directory.  A run that fails prints nothing and tells its problem.
-/
import CodeRetrieval.CommandLine.Invocation
import CodeRetrieval.Embedding.Client
import CodeRetrieval.Report.Listing
import CodeRetrieval.Repository
import CodeRetrieval.Settings.Reading
import CodeRetrieval.Settings.Template

namespace CodeRetrieval.CommandLine

/-- What a run finds around it.  The service answers each attempt of a request. -/
structure Surroundings where
  files : Files.Entries
  input : ByteArray
  environment : String → Option Text
  parser : Repository.Parser
  service : Client.Request → Nat → Client.Answer

/-- What a run leaves: its output and the directory. -/
structure Result where
  output : Text
  files : Files.Entries

/-- Why a run fails. -/
inductive Problem where
  | usage
  | failure (cause : Failure)
  | unreadableFile (path : Path)
  | unreadableInput
  | emptyQuery
  | settingsExist
  | settingsUnwritable

namespace Problem

/-- How the program is used. -/
def usageMessage : String :=
  "usage: sift [--config FILE] [--format text|json|markdown] [-v] COMMAND\n" ++
  "  search QUERY | --diff-file FILE | --diff\n" ++
  "    [--path DIR] [--top-k N] [--max-chars N] [--coalesce N] [--lexical-only]\n" ++
  "  chunk FILE [--max-chars N] [--coalesce N]\n" ++
  "  init"

/-- The problem in words. -/
def message : Problem → String
  | usage => usageMessage
  | failure cause => cause.message
  | unreadableFile path => s!"failed to read {String.ofList path}"
  | unreadableInput => "failed to read diff from stdin"
  | emptyQuery => "empty query: pass a query, --diff-file <FILE>, or pipe a diff with --diff"
  | settingsExist => ".sift.toml already exists"
  | settingsUnwritable => "failed to write .sift.toml"

/-- The number that the program ends with: two for a command line that asks for nothing. -/
def exitCode : Problem → Nat
  | usage => 2
  | _ => 1

/-- A failure of the library as a problem. -/
def ofExcept {α : Type} : Except Failure α → Except Problem α
  | .ok a => .ok a
  | .error cause => .error (.failure cause)

end Problem

/-- The name and the version of the program. -/
def versionLine : Text := Text.ofString "sift 0.1.0\n"

/-! ## Settings -/

/-- The settings file that is used if none is named. -/
def settingsPath : Path := Text.ofString ".sift.toml"

/-- The text of a file. -/
def readText (files : Files.Entries) (path : Path) : Except Problem Text :=
  match (Files.read files path.raw).bind Text.decode with
  | some text => .ok text
  | none => .error (.unreadableFile path)

/-- The settings of a file. -/
def readSettings (files : Files.Entries) (path : Path) : Except Problem (Settings Binary64) := do
  Problem.ofExcept (Settings.ofToml (← readText files path))

/-- The settings: those of the file that was named, else of the usual file if it is there, else the
standard ones. -/
def loadSettings (files : Files.Entries) (named : Option Path) :
    Except Problem (Settings Binary64) :=
  match named with
  | some path => readSettings files path
  | none => if Files.isThere files settingsPath.raw then readSettings files settingsPath else .ok .standard

/-- The settings with those of the command line in place of theirs. -/
def Overrides.apply {R : Type} (o : Overrides) (s : Settings R) : Settings R :=
  { s with
    chunking :=
      { s.chunking with
        budget := o.budget.getD s.chunking.budget
        threshold := o.threshold.getD s.chunking.threshold }
    rank := { s.rank with topK := o.topK.getD s.rank.topK } }

/-! ## Commands -/

/-- The text at the source of a query. -/
def QuerySource.read (world : Surroundings) : QuerySource → Except Problem Text
  | words text => .ok text
  | diffFile path => readText world.files path
  | diffInput =>
    match Text.decode world.input with
    | some text => .ok text
    | none => .error .unreadableInput

/-- The query, which is not blank. -/
def readQuery (world : Surroundings) (source : QuerySource) : Except Problem Text := do
  let text ← source.read world
  if text.isBlank then .error .emptyQuery else return text

/-- The provider of the settings. -/
def providerOf (world : Surroundings) (settings : EmbeddingSettings) :
    Except Failure (Provider Binary64) := do
  let client ← Client.ofSettings settings world.environment
  return fun texts => (client.embed (world.service (client.request texts)) texts).outcome

/-- Search a directory. -/
def search (world : Surroundings) (settings : Settings Binary64) (source : QuerySource) (root : Path)
    (keywordsOnly : Bool) : Except Problem (List (Ranked Binary64)) := do
  let query ← readQuery world source
  let provider ←
    if keywordsOnly then pure none
    else some <$> Problem.ofExcept (providerOf world settings.embedding)
  Problem.ofExcept (Repository.retrieve settings world.parser provider world.files root.raw root query)

/-- Cut a file. -/
def cut (world : Surroundings) (settings : Settings Binary64) (path : Path) :
    Except Problem (List Chunk) := do
  let content ← readText world.files path
  let file := Repository.sourceFile world.parser path path.raw.language content
  Problem.ofExcept (file.chunks settings.chunking)

/-- Write the settings file, which must not be there. -/
def writeTemplate (files : Files.Entries) : Except Problem Files.Entries :=
  if Files.isThere files settingsPath.raw then .error .settingsExist
  else
    match Files.write files settingsPath.raw (String.ofList Settings.template).toUTF8 with
    | some written => .ok written
    | none => .error .settingsUnwritable

/-- Do what a command says. -/
def Command.run (world : Surroundings) (manner : Manner) : Command → Except Problem Result
  | search source root overrides keywordsOnly => do
    let settings := overrides.apply (← loadSettings world.files manner.settings)
    let found ← CommandLine.search world settings source root keywordsOnly
    return ⟨Report.printRanked (manner.format.getD .standard) found, world.files⟩
  | chunk path overrides => do
    let settings := overrides.apply (← loadSettings world.files manner.settings)
    return ⟨Report.printChunks (manner.format.getD .standard) (← cut world settings path), world.files⟩
  | init => do
    let files ← writeTemplate world.files
    return ⟨Text.ofString "Created .sift.toml with default configuration\n", files⟩

/-- Whether the words of a command line ask for the standard input. -/
def needsInput (words : List Text) : Bool :=
  match Invocation.ofWords words with
  | some (.run (.search .diffInput _ _ _) _) => true
  | _ => false

/-- Run the program on the words of a command line. -/
def run (world : Surroundings) (words : List Text) : Except Problem Result :=
  match Invocation.ofWords words with
  | none => .error .usage
  | some .version => .ok ⟨versionLine, world.files⟩
  | some (.run command manner) => command.run world manner

end CodeRetrieval.CommandLine
