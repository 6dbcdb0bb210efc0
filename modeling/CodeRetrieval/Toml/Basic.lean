/-
# CodeRetrieval.Toml.Basic — TOML values and the tables that headers and keys build.

A document is a root table followed by groups, each a header and its assignments.  While it is read a
table remembers how it came to be: by a header, as a step on the way to one ("implicit"), or by a
dotted key.  A table is opened by one header only, dotted keys reach only tables made by dotted keys,
and no key is assigned twice; whatever breaks this is refused.
-/
import CodeRetrieval.Number.Binary64
import CodeRetrieval.Text.Basic

namespace CodeRetrieval.Toml

/-- A value.  Of a date or time only that it is one matters. -/
inductive Value where
  | text (t : Text)
  | integer (n : Int)
  | float (x : Binary64)
  | boolean (b : Bool)
  | dateTime
  | array (items : List Value)
  | table (entries : List (Text × Value))

/-- What stands under a key while a document is read: a value, a table with the marks of its origin, or
the tables of an array, newest first. -/
inductive Node where
  | leaf (value : Value)
  | table (implicit dotted : Bool) (entries : List (Text × Node))
  | tables (elements : List (List (Text × Node)))

/-- The entries of a table that is being read. -/
abbrev Entries := List (Text × Node)

namespace Entries

/-- What stands under a key. -/
def find (entries : Entries) (key : Text) : Option Node :=
  (List.find? (fun e => e.1 == key) entries).map (·.2)

/-- Put a node under a key. -/
def put (entries : Entries) (key : Text) (node : Node) : Entries :=
  entries.filter (fun e => e.1 != key) ++ [(key, node)]

/-- Change the table at the end of a path with `change`, which is told whether that table was made by a
dotted key.  Missing tables on the way are made, and marked as made by a dotted key if `byKey`. -/
def updateAt (byKey : Bool) (change : Bool → Entries → Option Entries) :
    List Text → Bool → Entries → Option Entries
  | [], dotted, entries => change dotted entries
  | key :: rest, _, entries =>
    match entries.find key with
    | none => do
      let made ← updateAt byKey change rest byKey []
      return entries.put key (.table true byKey made)
    | some (.leaf _) => none
    | some (.tables []) => none
    | some (.tables (newest :: older)) => do
      let changed ← updateAt byKey change rest false newest
      return entries.put key (.tables (changed :: older))
    | some (.table implicit dotted inner) =>
      if byKey && !implicit then none
      else do
        let changed ← updateAt byKey change rest dotted inner
        return entries.put key (.table implicit dotted changed)

end Entries

/-- A key, perhaps dotted, and its value. -/
structure Assignment where
  path : List Text
  value : Value

/-- Carry out an assignment in a table. -/
def Entries.assign (entries : Entries) (a : Assignment) : Option Entries :=
  match a.path.getLast? with
  | none => none
  | some key =>
    let way := a.path.dropLast
    entries.updateAt true
      (fun dotted inner =>
        if dotted == way.isEmpty || (Entries.find inner key).isSome then none
        else some (inner.put key (.leaf a.value)))
      way false

/-- A header, of a table or of an element of an array of tables, with the assignments below it. -/
structure Group where
  path : List Text
  isElement : Bool
  assignments : List Assignment

/-- Add a group to the root table. -/
def Entries.addGroup (root : Entries) (group : Group) : Option Entries :=
  match group.path.getLast? with
  | none => none
  | some key =>
    root.updateAt false
      (fun _ parent =>
        match parent.find key, group.isElement with
        | none, false => do
          return parent.put key (.table false false (← group.assignments.foldlM Entries.assign []))
        | some (.table true false entries), false => do
          return parent.put key (.table false false (← group.assignments.foldlM Entries.assign entries))
        | none, true => do
          return parent.put key (.tables [← group.assignments.foldlM Entries.assign []])
        | some (.tables elements), true => do
          return parent.put key (.tables ((← group.assignments.foldlM Entries.assign []) :: elements))
        | _, _ => none)
      group.path.dropLast false

mutual

/-- The value of a node. -/
def Node.value : Node → Value
  | .leaf v => v
  | .table _ _ entries => .table (entryValues entries)
  | .tables elements => .array (elementValues elements).reverse

/-- The values of the entries of a table. -/
def entryValues : List (Text × Node) → List (Text × Value)
  | [] => []
  | (key, node) :: rest => (key, node.value) :: entryValues rest

/-- The values of the elements of an array of tables. -/
def elementValues : List (List (Text × Node)) → List Value
  | [] => []
  | entries :: rest => .table (entryValues entries) :: elementValues rest

end

/-- The table that a root with assignments and groups amounts to. -/
def assemble (assignments : List Assignment) (groups : List Group) : Option Value := do
  let root ← assignments.foldlM Entries.assign []
  let root ← groups.foldlM Entries.addGroup root
  return .table (entryValues root)

/-- The table of the assignments between braces. -/
def inlineTable (assignments : List Assignment) : Option Value := do
  return .table (entryValues (← assignments.foldlM Entries.assign []))

end CodeRetrieval.Toml
