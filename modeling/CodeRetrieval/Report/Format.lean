/-
# CodeRetrieval.Report.Format — the forms in which results are printed.
-/
import CodeRetrieval.Text.Basic
import CodeRetrieval.Unicode.LowerCase

namespace CodeRetrieval.Report

/-- Plain text for reading, JSON for programs, Markdown for documents. -/
inductive Format where
  | text
  | json
  | markdown
deriving DecidableEq

namespace Format

/-- The form used when none is asked for. -/
def standard : Format := text

/-- The name of a form. -/
def name : Format → String
  | text => "text"
  | json => "json"
  | markdown => "markdown"

/-- The form of a name, in letters of any case; otherwise the name in small letters. -/
def ofName (given : Text) : Except Text Format :=
  let small := Unicode.lowerCase given
  if small = Text.ofString "text" then .ok text
  else if small = Text.ofString "json" then .ok json
  else if small = Text.ofString "markdown" ∨ small = Text.ofString "md" then .ok markdown
  else .error small

/-- What is said about a name that names no form. -/
def unknownMessage (small : Text) : String := s!"unknown output format: {String.ofList small}"

end Format

end CodeRetrieval.Report
