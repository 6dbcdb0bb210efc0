/-
# CodeRetrieval.CommandLine.Arguments — the words of a command line told apart.

A word behind two hyphens names an option; its value stands behind an equals sign or is the next word.
Letters behind one hyphen are options without a value.  Two hyphens alone make every word behind them
an operand, and every other word is one as it stands, a lone hyphen among them.  Only an operand can be
a value of its own.  Each option may be given once.
-/
import CodeRetrieval.Text.Basic

namespace CodeRetrieval.CommandLine

/-! ## Words -/

/-- What a word says. -/
inductive Word where
  | separator
  | option (name : Text) (value : Option Text)
  | letters (letters : Text)
  | operand (text : Text)

/-- Read a word. -/
def Word.ofText : Text → Word
  | ['-', '-'] => .separator
  | '-' :: '-' :: rest =>
    match rest.dropWhile (· != '=') with
    | [] => .option rest none
    | _ :: value => .option (rest.takeWhile (· != '=')) (some value)
  | ['-'] => .operand ['-']
  | '-' :: rest => .letters rest
  | text => .operand text

/-! ## Options -/

/-- How an option is used: by itself, with a value, or as the last one that is read. -/
inductive Use where
  | flag
  | valued
  | final
deriving DecidableEq

/-- An option by its name, its letter and its use. -/
structure Switch where
  name : String
  letter : Option Char
  use : Use

/-- The options and operands that were given; a flag has the empty value. -/
structure Arguments where
  options : List (String × Text)
  operands : List Text

namespace Arguments

/-- No arguments. -/
def empty : Arguments := ⟨[], []⟩

/-- One option more, unless it was given before. -/
def give (a : Arguments) (name : String) (value : Text) : Option Arguments :=
  if a.options.any (·.1 == name) then none
  else some { a with options := a.options ++ [(name, value)] }

/-- Operands more. -/
def operate (a : Arguments) (operands : List Text) : Arguments :=
  { a with operands := a.operands ++ operands }

/-- Whether an option was given. -/
def has (a : Arguments) (name : String) : Bool := a.options.any (·.1 == name)

/-- The value of an option, read if the option was given; nothing if it cannot be read. -/
def value {α : Type} (a : Arguments) (name : String) (read : Text → Option α) : Option (Option α) :=
  match a.options.find? (·.1 == name) with
  | none => some none
  | some (_, text) => (read text).map some

end Arguments

/-! ## Reading -/

/-- Where the arguments end: with the words, before a command that takes over, or at a final option. -/
inductive Ending where
  | words
  | command (name : String) (rest : List Text)
  | final (name : String)

/-- The options that may be given and the commands that may take over. -/
structure Grammar where
  switches : List Switch
  commands : List String

namespace Grammar

/-- Give the options of letters; a final one is named and ends them. -/
def giveLetters (g : Grammar) (a : Arguments) : Text → Option (Arguments × Option String)
  | [] => some (a, none)
  | letter :: rest =>
    match g.switches.find? (·.letter == some letter) with
    | none => none
    | some s =>
      match s.use with
      | .final => some (a, some s.name)
      | .flag => do g.giveLetters (← a.give s.name []) rest
      | .valued => none

/-- Read words into the arguments before them. -/
def readFrom (g : Grammar) (a : Arguments) : List Text → Option (Arguments × Ending)
  | [] => some (a, .words)
  | word :: rest =>
    match Word.ofText word with
    | .separator => some (a.operate rest, .words)
    | .operand text =>
      match g.commands.find? (·.toList == text) with
      | some name => some (a, .command name rest)
      | none => g.readFrom (a.operate [text]) rest
    | .letters letters => do
      match ← g.giveLetters a letters with
      | (b, none) => g.readFrom b rest
      | (b, some name) => some (b, .final name)
    | .option name value =>
      match g.switches.find? (·.name.toList == name) with
      | none => none
      | some s =>
        match s.use, value with
        | .final, none => some (a, .final s.name)
        | .flag, none => do g.readFrom (← a.give s.name []) rest
        | .valued, some attached => do g.readFrom (← a.give s.name attached) rest
        | .valued, none =>
          match rest with
          | [] => none
          | next :: others =>
            match Word.ofText next with
            | .operand text => do g.readFrom (← a.give s.name text) others
            | _ => none
        | _, _ => none

/-- Read the words of a command line. -/
def read (g : Grammar) (words : List Text) : Option (Arguments × Ending) := g.readFrom .empty words

end Grammar

end CodeRetrieval.CommandLine
