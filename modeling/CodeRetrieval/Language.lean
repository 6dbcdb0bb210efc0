/-
# CodeRetrieval.Language — the languages a source file can be in.

A language is read off the extension of the file's path.  A language with a grammar is cut along its
syntax; every other file is plain text.
-/
import CodeRetrieval.Text.Basic

namespace CodeRetrieval

/-- The languages with a grammar, and plain text for all other files. -/
inductive Language where
  | rust | python | typeScript | tsx | javaScript | go | java | c | cpp | ruby | php | kotlin | swift
  | plain
deriving DecidableEq, Repr

namespace Language

/-- All languages. -/
def all : List Language :=
  [rust, python, typeScript, tsx, javaScript, go, java, c, cpp, ruby, php, kotlin, swift, plain]

/-- The extensions of a language's files, without the dot. -/
def extensions : Language → List String
  | rust => ["rs"]
  | python => ["py", "pyi"]
  | typeScript => ["ts", "mts", "cts"]
  | tsx => ["tsx"]
  | javaScript => ["js", "jsx", "mjs", "cjs"]
  | go => ["go"]
  | java => ["java"]
  | c => ["c", "h"]
  | cpp => ["cpp", "cc", "cxx", "hpp", "hxx", "hh"]
  | ruby => ["rb"]
  | php => ["php"]
  | kotlin => ["kt", "kts"]
  | swift => ["swift"]
  | plain => []

/-- The short name, which also labels code blocks in Markdown. -/
def name : Language → String
  | rust => "rust"
  | python => "python"
  | typeScript => "typescript"
  | tsx => "tsx"
  | javaScript => "javascript"
  | go => "go"
  | java => "java"
  | c => "c"
  | cpp => "cpp"
  | ruby => "ruby"
  | php => "php"
  | kotlin => "kotlin"
  | swift => "swift"
  | plain => "text"

/-- The language with a short name. -/
def ofName? (short : String) : Option Language := all.find? (·.name == short)

/-- The language of an extension. -/
def ofExtension (extension : Text) : Language :=
  (all.find? (·.extensions.contains (String.ofList extension))).getD plain

/-- Whether files of the language can be parsed. -/
def hasGrammar (language : Language) : Bool := language != plain

end Language

end CodeRetrieval
