/-
# CodeRetrieval.Files.Tree — a directory tree.

A tree holds files with their bytes, directories and symbolic links, under names of any bytes.  `locate`
follows a path from the top: it steps into directories, back out of them, and through links, of which it
follows a limited number.  What lies outside the tree cannot be reached.
-/
import CodeRetrieval.Path

namespace CodeRetrieval.Files

/-- A file, a directory or a symbolic link. -/
inductive Node where
  | file (bytes : ByteArray)
  | dir (entries : List (RawPath × Node))
  | link (target : RawPath)

/-- The entries of a directory. -/
abbrev Entries := List (RawPath × Node)

/-- The entry of a name. -/
def find (entries : Entries) (name : RawPath) : Option Node :=
  (entries.find? (fun e => e.1 == name)).map (·.2)

/-- The entries with a node under a name. -/
def put (entries : Entries) (name : RawPath) (node : Node) : Entries :=
  if entries.any (fun e => e.1 == name) then
    entries.map fun e => if e.1 == name then (name, node) else e
  else entries ++ [(name, node)]

/-- The entries below a node: none unless it is a directory. -/
def Node.entries : Node → Entries
  | dir entries => entries
  | _ => []

/-- Put a node at a path of names, making the directories on the way.  A directory that is already there
is kept. -/
def insert : List RawPath → Node → Entries → Entries
  | [], _, entries => entries
  | [name], node, entries =>
    match find entries name, node with
    | some (.dir kept), .dir [] => put entries name (.dir kept)
    | _, _ => put entries name node
  | name :: next :: rest, node, entries =>
    put entries name (.dir (insert (next :: rest) node ((find entries name).map Node.entries |>.getD [])))

/-- Where a path leads: the names from the top and the node there. -/
structure Place where
  names : List RawPath
  node : Node

/-- The directories on the way from the top, newest first, each with its name; the top has none. -/
abbrev Trail := List (RawPath × Entries)

/-- The names of the directories on the way, from the top. -/
def Trail.names (trail : Trail) : List RawPath := (trail.map (·.1)).reverse

/-- The entries of the directory at the end of a trail. -/
def Trail.entries (top : Entries) (trail : Trail) : Entries := (trail.head?.map (·.2)).getD top

/-- The most symbolic links that are followed. -/
def linkLimit : Nat := 40

/-- The steps of a path as it is written: empty pieces and dots ask for a directory. -/
def stepsOf (path : RawPath) : List RawPath := path.splitOn RawPath.slash

/-- Whether a path starts at the root of the system. -/
def isRooted (path : RawPath) : Bool := path.head? == some RawPath.slash

/-- Follow steps from a directory.  At a link, `onLink` goes on with the steps of its target and those
behind it; links to nothing or from the root of the system lead nowhere. -/
def followSteps (top : Entries) (onLink : Trail → List RawPath → Option Place) (trail : Trail) :
    List RawPath → Option Place
  | [] => some ⟨trail.names, .dir (trail.entries top)⟩
  | step :: rest =>
    if step = [] ∨ step = [RawPath.dot] then followSteps top onLink trail rest
    else if step = [RawPath.dot, RawPath.dot] then
      match trail with
      | [] => none
      | _ :: outer => followSteps top onLink outer rest
    else
      match find (trail.entries top) step with
      | none => none
      | some (.dir entries) => followSteps top onLink ((step, entries) :: trail) rest
      | some (.file bytes) => if rest.isEmpty then some ⟨trail.names ++ [step], .file bytes⟩ else none
      | some (.link target) =>
        if target.isEmpty || isRooted target then none else onLink trail (stepsOf target ++ rest)

/-- Follow steps from a directory through a number of links at most. -/
def follow (top : Entries) : Nat → Trail → List RawPath → Option Place
  | 0 => followSteps top fun _ _ => none
  | links + 1 => followSteps top (follow top links)

/-- The place that a path leads to from the top. -/
def locate (top : Entries) (path : RawPath) : Option Place :=
  if isRooted path then none else follow top linkLimit [] (stepsOf path)

/-- The bytes of the file that a path leads to. -/
def read (top : Entries) (path : RawPath) : Option ByteArray :=
  match locate top path with
  | some ⟨_, .file bytes⟩ => some bytes
  | _ => none

/-- Whether a path leads anywhere. -/
def isThere (top : Entries) (path : RawPath) : Bool := (locate top path).isSome

/-- Write a file at the end of steps from the top, following a number of links there. -/
def writeAt (top : Entries) (bytes : ByteArray) : Nat → List RawPath → Option Entries
  | 0, _ => none
  | links + 1, steps =>
    match steps.getLast? with
    | none => none
    | some name =>
      if name = [] ∨ name = [RawPath.dot] ∨ name = [RawPath.dot, RawPath.dot] then none
      else
        match follow top linkLimit [] steps.dropLast with
        | some ⟨names, .dir entries⟩ =>
          match find entries name with
          | some (.dir _) => none
          | some (.link target) =>
            if isRooted target then none else writeAt top bytes links (names ++ stepsOf target)
          | _ => some (insert (names ++ [name]) (.file bytes) top)
        | _ => none

/-- Write the file that a path leads to, a new one if there is none; its directory has to be there. -/
def write (top : Entries) (path : RawPath) (bytes : ByteArray) : Option Entries :=
  writeAt top bytes linkLimit (stepsOf path)

/-- The path of names. -/
def pathOf (names : List RawPath) : RawPath := [RawPath.slash].intercalate names

/-- The number of files directly in a directory; links do not count. -/
def fileCount (entries : Entries) : Nat :=
  entries.countP fun e =>
    match e.2 with
    | .file _ => true
    | _ => false

end CodeRetrieval.Files
