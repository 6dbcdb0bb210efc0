/-
# CodeRetrieval.Toml.Document — TOML documents read.

A value may nest arrays and inline tables up to a limit, on which the reader recurses.  Items and lines
are read in loops bounded by the length of the text, since each takes at least one character.
-/
import CodeRetrieval.Toml.Number

namespace CodeRetrieval.Toml

/-- A value that is no array and no table. -/
def readScalar (text : Text) : Option (Value × Text) :=
  match text with
  | 't' :: 'r' :: 'u' :: 'e' :: rest => some (.boolean true, rest)
  | 'f' :: 'a' :: 'l' :: 's' :: 'e' :: rest => some (.boolean false, rest)
  | c :: _ =>
    if c = '"' ∨ c = '\x27' then (readString text).map fun (t, rest) => (.text t, rest)
    else if c = '+' ∨ c = '-' ∨ Json.isDigit c = true then readNumber text
    else readSpecial false text
  | [] => none

/-- The items of an array from the next one on, or its closing bracket. -/
def readItems (readItem : Text → Option (Value × Text)) (read : List Value) :
    Nat → Text → Option (Value × Text)
  | 0, _ => none
  | bound + 1, text => do
    match ← skipTrivia false text with
    | ']' :: rest => return (.array read.reverse, rest)
    | text =>
      let (item, rest) ← readItem text
      match ← skipTrivia false rest with
      | ',' :: rest => readItems readItem (item :: read) bound rest
      | ']' :: rest => return (.array (item :: read).reverse, rest)
      | _ => none

/-- An assignment up to the end of its value. -/
def readAssignment (readItem : Text → Option (Value × Text)) (text : Text) :
    Option (Assignment × Text) := do
  let (path, rest) ← readKey (nestingLimit - 1) text
  match rest with
  | '=' :: rest => do
    let (value, rest) ← readItem (skipSpace rest)
    return (⟨path, value⟩, rest)
  | _ => none

/-- The assignments of an inline table from the next one on. -/
def readMembers (readItem : Text → Option (Value × Text)) (read : List Assignment) :
    Nat → Text → Option (Value × Text)
  | 0, _ => none
  | bound + 1, text => do
    let (assignment, rest) ← readAssignment readItem text
    match skipSpace rest with
    | ',' :: rest => readMembers readItem (assignment :: read) bound rest
    | '\x7d' :: rest => do return (← inlineTable (assignment :: read).reverse, rest)
    | _ => none

/-- A value with at most so many levels of arrays and tables. -/
def readValue : Nat → Text → Option (Value × Text)
  | 0, text => readScalar text
  | levels + 1, text =>
    match text with
    | '[' :: rest => readItems (readValue levels) [] (rest.length + 1) rest
    | '\x7b' :: rest =>
      match skipSpace rest with
      | '\x7d' :: rest => some (.table [], rest)
      | rest => readMembers (readValue levels) [] (rest.length + 1) rest
    | _ => readScalar text

/-- A line of a document. -/
inductive Line where
  | blank
  | assignment (a : Assignment)
  | header (path : List Text) (isElement : Bool)

/-- A header behind its opening brackets, up to the end of the line. -/
def readHeader (isElement : Bool) (text : Text) : Option (Line × Text) := do
  let (path, rest) ← readKey (nestingLimit - 1) text
  let rest ← expect ']' rest
  let rest ← if isElement then expect ']' rest else some rest
  return (.header path isElement, ← endLine rest)

/-- One line, or an assignment that runs over several. -/
def readLine (text : Text) : Option (Line × Text) :=
  match text with
  | '[' :: '[' :: rest => readHeader true rest
  | '[' :: rest => readHeader false rest
  | '#' :: _ => (endLine text).map fun rest => (.blank, rest)
  | '\n' :: rest => some (.blank, rest)
  | '\r' :: _ => (endLine text).map fun rest => (.blank, rest)
  | _ => do
    let (assignment, rest) ← readAssignment (readValue (nestingLimit - 1)) text
    return (.assignment assignment, ← endLine rest)

/-- The lines of a document. -/
def readLines (read : List Line) : Nat → Text → Option (List Line)
  | 0, _ => none
  | bound + 1, text =>
    match skipSpace text with
    | [] => some read.reverse
    | text =>
      match readLine text with
      | some (line, rest) => readLines (line :: read) bound rest
      | none => none

/-- The assignments before the first header and the groups behind it. -/
def gather (line : Line) (below : List Assignment × List Group) : List Assignment × List Group :=
  match line with
  | .blank => below
  | .assignment a => (a :: below.1, below.2)
  | .header path isElement => ([], ⟨path, isElement, below.1⟩ :: below.2)

/-- The table of a whole document.  A byte order mark in front means nothing. -/
def parse (text : Text) : Option Value := do
  let text := match text with
    | '\ufeff' :: rest => rest
    | _ => text
  let lines ← readLines [] (text.length + 1) text
  let (assignments, groups) := lines.foldr gather ([], [])
  assemble assignments groups

end CodeRetrieval.Toml
