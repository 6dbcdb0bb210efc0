/-
# CodeRetrieval.Files.Walk — the files of a directory tree that are worth cutting.

The walk looks at every regular file that is not hidden and in no pruned directory.  Each file is then
judged on its own: by its path, its size, the number of files beside it, and its content.  The verdict
on a file depends on no other file, and the files taken are returned in the order of their paths.

What is hidden and what a pattern of files to skip matches is decided elsewhere: the walk goes by any such
decisions.
-/
import CodeRetrieval.Files.SkipPattern
import CodeRetrieval.Files.Tree
import CodeRetrieval.Settings
import Std.Data.HashMap

namespace CodeRetrieval.Files

/-- Why a file is not taken. -/
inductive Rejection where
  | excludedDir
  | excludedSuffix
  | skipPattern
  | tooSmall
  | tooLarge
  | crowded
  | binary
  | notText
  | longLines
deriving DecidableEq

/-- A file that the walk comes upon: its path by names, relative to the root of the walk, and its
bytes. -/
structure Candidate where
  names : List RawPath
  bytes : ByteArray

namespace Candidate

/-- The path of the file. -/
def path (c : Candidate) : RawPath := pathOf c.names

/-- The name of the file as text; a name that is none counts as empty. -/
def nameText (c : Candidate) : Text := (c.names.getLast?.bind RawPath.text?).getD []

/-- The directory of the file. -/
def parent (c : Candidate) : List RawPath := c.names.dropLast

end Candidate

/-- A file that the walk takes: its path by names, the language of the path, and its content. -/
structure Taken where
  names : List RawPath
  language : Language
  content : Text
deriving DecidableEq

/-- The file of a candidate with a content. -/
def Taken.of (file : Candidate × Text) : Taken := ⟨file.1.names, file.1.path.language, file.2⟩

variable {G : Type}

/-! ## Verdicts -/

/-- What the path of a file says against it. -/
def judgePath (globs : Globs G) (settings : WalkSettings) (patterns : List G) (c : Candidate) :
    Option Rejection :=
  if settings.excludedDirs.any (fun dir => c.path.startsWith (Path.raw dir)) then some .excludedDir
  else if settings.excludedSuffixes.any (fun suffix => suffix.isSuffixOf c.nameText) then
    some .excludedSuffix
  else if patterns.any (fun glob => globs.matchesPath glob c.path) then some .skipPattern
  else none

/-- What the size of a file says against it. -/
def judgeSize (settings : WalkSettings) (c : Candidate) : Option Rejection :=
  if c.bytes.size < settings.minBytes then some .tooSmall
  else if settings.maxBytes < c.bytes.size then some .tooLarge
  else none

/-- The text of a file, or what its content says against it. -/
def judgeContent (settings : WalkSettings) (c : Candidate) : Except Rejection Text :=
  if c.bytes.data.contains 0 then .error .binary
  else
    match Text.decode c.bytes with
    | none => .error .notText
    | some text =>
      if settings.maxMeanLine * (Text.split '\n' text).length < c.bytes.size then .error .longLines
      else .ok text

/-- The verdict on a file, given the number of files in its directory: its text or a reason against
it. -/
def judge (globs : Globs G) (settings : WalkSettings) (patterns : List G) (siblings : Nat)
    (c : Candidate) : Except Rejection Text :=
  match (judgePath globs settings patterns c).or (judgeSize settings c) with
  | some reason => .error reason
  | none => if settings.maxSiblings < siblings then .error .crowded else judgeContent settings c

/-! ## The walk over candidates -/

/-- The files taken and the files rejected so far, newest first, and the numbers of files of the
directories counted so far. -/
structure Sorting where
  taken : List (Candidate × Text)
  rejected : List (Candidate × Rejection)
  counted : Std.HashMap (List RawPath) Nat

/-- Judge one more file.  Its directory is counted at most once, and only if the path and the size say
nothing against the file. -/
def Sorting.step (globs : Globs G) (settings : WalkSettings) (patterns : List G)
    (countFiles : List RawPath → Nat) (state : Sorting) (c : Candidate) : Sorting :=
  match (judgePath globs settings patterns c).or (judgeSize settings c) with
  | some reason => { state with rejected := (c, reason) :: state.rejected }
  | none =>
    let siblings := state.counted.getD c.parent (countFiles c.parent)
    let counted := state.counted.insert c.parent siblings
    let verdict :=
      if settings.maxSiblings < siblings then .error .crowded else judgeContent settings c
    match verdict with
    | .ok text => ⟨(c, text) :: state.taken, state.rejected, counted⟩
    | .error reason => ⟨state.taken, (c, reason) :: state.rejected, counted⟩

/-- Judge all candidates in the order in which they come. -/
def Sorting.of (globs : Globs G) (settings : WalkSettings) (patterns : List G)
    (countFiles : List RawPath → Nat) (candidates : List Candidate) : Sorting :=
  candidates.foldl (Sorting.step globs settings patterns countFiles) ⟨[], [], ∅⟩

/-- Whether one file comes before another, by the names of their paths. -/
def comesBefore (a b : Taken) : Bool := RawPath.namesLe a.names b.names

/-- The files taken, in the order of their paths. -/
def Sorting.files (state : Sorting) : List Taken := (state.taken.map Taken.of).mergeSort comesBefore

/-! ## The walk over a tree -/

/-- Names of directories that are never entered. -/
def prunedDirs : List String := [".git", "node_modules", ".venv", "venv", "build", "dist", "patch"]

/-- Whether a directory of a name is never entered. -/
def isPruned (name : RawPath) : Bool := prunedDirs.any fun pruned => Path.raw pruned.toList == name

section Candidates

variable (hidden : List RawPath → Bool → Bool)

mutual

/-- The candidates at and below the node of a name in a directory, whose names are given from the root of
the walk.  `hidden` tells which files and which directories are passed over. -/
def Node.candidates (directory : List RawPath) (name : RawPath) : Node → List Candidate
  | .link _ => []
  | .file bytes => if hidden (directory ++ [name]) false then [] else [⟨directory ++ [name], bytes⟩]
  | .dir entries =>
    if hidden (directory ++ [name]) true || isPruned name then []
    else entriesCandidates (directory ++ [name]) entries

/-- The candidates among the entries of a directory. -/
def entriesCandidates (directory : List RawPath) : List (RawPath × Node) → List Candidate
  | [] => []
  | (name, node) :: rest => node.candidates directory name ++ entriesCandidates directory rest

end

end Candidates

/-- The number of files in the directory at a list of names. -/
def countAt (top : Entries) (names : List RawPath) : Nat :=
  match locate top (pathOf names) with
  | some ⟨_, .dir entries⟩ => fileCount entries
  | _ => 0

/-- What is hidden below a directory, by names from that directory. -/
def hiddenBelow (hidden : List RawPath → Bool → Bool) (around names : List RawPath) (isDir : Bool) : Bool :=
  hidden (around ++ names) isDir

/-- Walk the directory that a path leads to; `hidden` goes by names from the top of the tree, and `shown` is
the path as it is told in messages. -/
def walk (globs : Globs G) (hidden : List RawPath → Bool → Bool) (settings : WalkSettings) (top : Entries)
    (root : RawPath) (shown : Path) : Except Failure Sorting :=
  match locate top root with
  | some ⟨names, .dir entries⟩ => do
    let patterns ← globs.parseAll settings.skipPatterns
    return Sorting.of globs settings patterns (fun parent => countAt top (names ++ parent))
      (entriesCandidates (hiddenBelow hidden names) [] entries)
  | _ => .error (.fileAccess shown (Text.ofString "not a directory"))

end CodeRetrieval.Files
