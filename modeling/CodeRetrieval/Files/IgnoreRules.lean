/-
# CodeRetrieval.Files.IgnoreRules — which entries of a directory tree are not looked at.

Each directory may bring rules for what lies below it: those of its `.ignore` file, and, inside a
repository, those of its `.gitignore` file and of the repository's `info/exclude`.  A rule names paths
by a glob and takes them out, or keeps them in if it begins with an exclamation mark.  In one file the
last rule that fits decides, and among directories the deepest one whose file decides.  Rules of
`.ignore` come before those of `.gitignore`, and those before `info/exclude`.  A repository ends where
another one lies around it: repository rules from further out do not count.  Rules of directories above the
tree and of a user are not read.
-/
import CodeRetrieval.Files.IgnorePattern
import CodeRetrieval.Files.Tree

namespace CodeRetrieval.Files

/-- A rule of an ignore file. -/
structure IgnoreRule where
  keeps : Bool
  onlyDirs : Bool
  glob : List IgnorePattern.Token

namespace IgnoreRule

/-- A line without blanks at the end, unless the last blank is escaped. -/
def trimLine (line : Text) : Text :=
  match line.reverse with
  | ' ' :: '\\' :: _ => line
  | _ => line.trimEnd

/-- The parts of a line: whether it keeps, whether it starts at the directory, and its glob. -/
def splitLine (line : Text) : Bool × Bool × Text :=
  match line with
  | '\\' :: '!' :: rest => (false, false, '!' :: rest)
  | '\\' :: '#' :: rest => (false, false, '#' :: rest)
  | '!' :: '/' :: rest => (true, true, rest)
  | '!' :: rest => (true, false, rest)
  | '/' :: rest => (false, true, rest)
  | rest => (false, false, rest)

/-- A glob without the slash that asks for a directory. -/
def dropSlash (glob : Text) : Bool × Text :=
  match glob.reverse with
  | '/' :: '\\' :: rest => (true, rest.reverse)
  | '/' :: rest => (true, rest.reverse)
  | _ => (false, glob)

/-- The glob relative to the directory: one without a slash fits at any depth, and one that ends in two
stars fits what is below but not the directory itself. -/
def widen (anchored : Bool) (glob : Text) : Text :=
  let deep :=
    if !anchored && !glob.contains '/' && glob != ['*', '*'] then '*' :: '*' :: '/' :: glob else glob
  match deep.reverse with
  | '*' :: '*' :: '/' :: _ => deep ++ ['/', '*']
  | _ => deep

/-- The rule of a line; blank lines, comments and wrong globs have none. -/
def ofLine (line : Text) : Option IgnoreRule :=
  if line.head? = some '#' then none
  else
    let line := trimLine line
    if line.isEmpty then none
    else
      let (keeps, anchored, glob) := splitLine line
      let (onlyDirs, glob) := dropSlash glob
      (IgnorePattern.parse (widen anchored glob)).map fun tokens => ⟨keeps, onlyDirs, tokens⟩

/-- The lines of a file, up to the first that is not UTF-8. -/
def linesOf (bytes : ByteArray) : List Text :=
  let pieces := bytes.toList.splitBy (fun a _ => a != 10)
  let decoded := pieces.map RawPath.text?
  let sound := (decoded.takeWhile Option.isSome).filterMap id
  sound.map fun line =>
    match line.reverse with
    | '\n' :: '\r' :: rest => rest.reverse
    | '\n' :: rest => rest.reverse
    | _ => line

/-- The rules of a file.  A byte order mark in front means nothing. -/
def ofFile (bytes : ByteArray) : List IgnoreRule :=
  match linesOf bytes with
  | [] => []
  | first :: rest => ((first.dropWhile (· == '\ufeff')) :: rest).filterMap ofLine

/-- What the last rule that fits says of a path: whether it is taken out. -/
def decide? (rules : List IgnoreRule) (path : RawPath) (isDir : Bool) : Option Bool :=
  (rules.reverse.find? fun rule =>
    (isDir || !rule.onlyDirs) && IgnorePattern.matchesPath rule.glob path).map fun rule => !rule.keeps

end IgnoreRule

/-- The rules that a directory brings: its depth in the tree, whether a repository begins here, and the
rules of its three files. -/
structure IgnoreLayer where
  depth : Nat
  isRepository : Bool
  plain : List IgnoreRule
  tracked : List IgnoreRule
  excluded : List IgnoreRule

namespace IgnoreLayer

/-- The layer of the directory at a place. -/
def ofDir (top : Entries) (names : List RawPath) : IgnoreLayer :=
  let path (name : String) : RawPath := pathOf (names ++ [Path.raw name.toList])
  let rules (name : String) : List IgnoreRule := ((read top (path name)).map IgnoreRule.ofFile).getD []
  ⟨names.length, isThere top (path ".git"), rules ".ignore", rules ".gitignore",
    rules ".git/info/exclude"⟩

/-- The layers of the directories from the top down to a list of names, deepest first. -/
def around (top : Entries) (names : List RawPath) : List IgnoreLayer :=
  ((List.range (names.length + 1)).map fun depth => ofDir top (names.take depth)).reverse

/-- The layers whose repository rules count, deepest first: none outside a repository, and none beyond
the innermost one. -/
def repositoryLayers (layers : List IgnoreLayer) : List IgnoreLayer :=
  if layers.any (·.isRepository) then
    layers.takeWhile (fun layer => !layer.isRepository) ++
      (layers.find? (·.isRepository)).toList
  else []

/-- What the layers, deepest first, say of a path. -/
def decide? (layers : List IgnoreLayer) (names : List RawPath) (isDir : Bool) : Option Bool :=
  let ask (rules : IgnoreLayer → List IgnoreRule) (layer : IgnoreLayer) : Option Bool :=
    IgnoreRule.decide? (rules layer) (pathOf (names.drop layer.depth)) isDir
  let repository := repositoryLayers layers
  (layers.findSome? (ask plain)).or
    ((repository.findSome? (ask tracked)).or (repository.findSome? (ask excluded)))

end IgnoreLayer

/-- Whether an entry is passed over: by a rule of the directories it is in, or as a hidden entry that no
rule keeps. -/
def isIgnored (top : Entries) (names : List RawPath) (isDir : Bool) : Bool :=
  match IgnoreLayer.decide? (IgnoreLayer.around top names.dropLast) names isDir with
  | some out => out
  | none => (names.getLast?.bind List.head?) == some RawPath.dot

end CodeRetrieval.Files
