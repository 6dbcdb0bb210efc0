/-
# CodeRetrieval.CommandLine.Invocation — what a command line asks for.

There are three commands: search a directory, show how a file is cut, and write a settings file.  The
path of the settings and the form of the output may be given before the command or behind it; the inner
ones count.  A search takes its query from exactly one of three places.  A command line that is not of
this form asks for nothing.
-/
import CodeRetrieval.CommandLine.Arguments
import CodeRetrieval.Json.Basic
import CodeRetrieval.Path
import CodeRetrieval.Report.Format
import CodeRetrieval.Settings

namespace CodeRetrieval.CommandLine

/-! ## Commands -/

/-- Where the query of a search comes from. -/
inductive QuerySource where
  | words (text : Text)
  | diffFile (path : Path)
  | diffInput

/-- Settings given on the command line, which count before the configured ones. -/
structure Overrides where
  topK : Option Nat
  budget : Option Nat
  threshold : Option Nat

/-- What to do. -/
inductive Command where
  | search (source : QuerySource) (root : Path) (overrides : Overrides) (keywordsOnly : Bool)
  | chunk (file : Path) (overrides : Overrides)
  | init

/-- The options of every command: where the settings are and in which form to print. -/
structure Manner where
  settings : Option Path
  format : Option Report.Format

/-- What a command line asks for. -/
inductive Invocation where
  | version
  | run (command : Command) (manner : Manner)

/-! ## Values -/

/-- A path is any text but the empty one. -/
def path? (text : Text) : Option Path := if text.isEmpty then none else some text

/-- A number of sixty-four bits in decimal digits, perhaps behind a plus sign. -/
def number? (text : Text) : Option Nat :=
  let digits := match text with
    | '+' :: rest => rest
    | _ => text
  if digits.isEmpty || !digits.all Char.isDigit then none
  else
    let n := Numeral.digitsValue digits
    if n ≤ Numeral.maxWord then some n else none

/-- An output form by its name. -/
def format? (text : Text) : Option Report.Format := (Report.Format.ofName text).toOption

/-! ## Options -/

/-- Options allowed before and behind the command. -/
def commonSwitches : List Switch :=
  [⟨"config", none, .valued⟩, ⟨"format", none, .valued⟩, ⟨"verbose", some 'v', .flag⟩]

/-- Options of how to cut. -/
def cuttingSwitches : List Switch := [⟨"max-chars", none, .valued⟩, ⟨"coalesce", none, .valued⟩]

/-- What may stand before the command. -/
def outerGrammar : Grammar :=
  ⟨⟨"version", some 'V', .final⟩ :: commonSwitches, ["search", "chunk", "init"]⟩

/-- What may stand behind the command to search. -/
def searchGrammar : Grammar where
  switches :=
    [⟨"diff-file", none, .valued⟩, ⟨"diff", none, .flag⟩, ⟨"path", none, .valued⟩,
     ⟨"top-k", none, .valued⟩, ⟨"lexical-only", none, .flag⟩] ++ cuttingSwitches ++ commonSwitches
  commands := []

/-- What may stand behind the command to cut a file. -/
def chunkGrammar : Grammar := ⟨cuttingSwitches ++ commonSwitches, []⟩

/-- What may stand behind the command to write a settings file. -/
def initGrammar : Grammar := ⟨commonSwitches, []⟩

/-! ## Reading -/

/-- The options of every command among the arguments. -/
def Manner.ofArguments (a : Arguments) : Option Manner := do
  return ⟨← a.value "config" path?, ← a.value "format" format?⟩

/-- The inner options count before the outer ones. -/
def Manner.within (inner outer : Manner) : Manner :=
  ⟨inner.settings.or outer.settings, inner.format.or outer.format⟩

/-- The settings among the arguments. -/
def Overrides.ofArguments (a : Arguments) : Option Overrides := do
  return ⟨← a.value "top-k" number?, ← a.value "max-chars" number?, ← a.value "coalesce" number?⟩

/-- The one place that the query comes from. -/
def QuerySource.ofArguments (a : Arguments) : Option QuerySource := do
  match a.operands, ← a.value "diff-file" path?, a.has "diff" with
  | [text], none, false => return words text
  | [], some path, false => return diffFile path
  | [], none, true => return diffInput
  | _, _, _ => none

/-- The directory that is searched if none is given. -/
def hereRoot : Path := ['.']

/-- The command to search, of its arguments. -/
def Command.searchOf (a : Arguments) : Option Command := do
  return search (← QuerySource.ofArguments a) ((← a.value "path" path?).getD hereRoot)
    (← Overrides.ofArguments a) (a.has "lexical-only")

/-- The command to cut a file, of its arguments. -/
def Command.chunkOf (a : Arguments) : Option Command := do
  match a.operands with
  | [file] => return chunk (← path? file) (← Overrides.ofArguments a)
  | _ => none

/-- The command to write a settings file, of its arguments. -/
def Command.initOf (a : Arguments) : Option Command := if a.operands.isEmpty then some init else none

/-- A command by its name: what may stand behind it, and how it is read. -/
def commandOf (name : String) : Grammar × (Arguments → Option Command) :=
  if name = "search" then (searchGrammar, Command.searchOf)
  else if name = "chunk" then (chunkGrammar, Command.chunkOf)
  else (initGrammar, Command.initOf)

/-- What the words of a command line ask for. -/
def Invocation.ofWords (words : List Text) : Option Invocation := do
  let (outer, ending) ← outerGrammar.read words
  let manner ← Manner.ofArguments outer
  if !outer.operands.isEmpty then none
  else
    match ending with
    | .words => none
    | .final _ => return .version
    | .command name rest =>
      let (grammar, read) := commandOf name
      let (inner, _) ← grammar.read rest
      return .run (← read inner) ((← Manner.ofArguments inner).within manner)

end CodeRetrieval.CommandLine
