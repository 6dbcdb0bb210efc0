/-
# CodeRetrieval.Path — file paths.

To a file system a path is a sequence of bytes, and a name in a directory is one too; neither need be text.
The meaning of a path is the list of its components.  Doubled and closing slashes and inner dots mean
nothing, so two sequences can be one path.  Paths are ordered component by component, each name by its
bytes, and a file's language is that of the extension of its last name, if the extension is text.

Settings, command lines and keys hold paths as texts, which stand for their UTF-8 bytes.
-/
import CodeRetrieval.Language

namespace CodeRetrieval

/-- A file path as it is written. -/
abbrev Path := Text

/-- A file path, or a name in one, as a file system holds it. -/
abbrev RawPath := List UInt8

/-- The bytes that a written path stands for. -/
def Path.raw (path : Path) : RawPath := path.flatMap String.utf8EncodeChar

/-- One step of a path. -/
inductive Component where
  | root
  | here
  | up
  | name (n : RawPath)
deriving DecidableEq

namespace RawPath

/-- The byte between two names. -/
def slash : UInt8 := 47

/-- The byte of a dot. -/
def dot : UInt8 := 46

/-- The text of a path or a name, if it is one. -/
def text? (path : RawPath) : Option Text := Text.decode ⟨path.toArray⟩

/-! ## Components -/

/-- The steps among the pieces between slashes. -/
def steps (pieces : List RawPath) : List Component :=
  pieces.filterMap fun piece =>
    if piece = [] ∨ piece = [dot] then none
    else if piece = [dot, dot] then some .up
    else some (.name piece)

/-- The components of a path.  A dot counts only as the first piece. -/
def components (path : RawPath) : List Component :=
  match path.splitOn slash with
  | [] => []
  | first :: rest =>
    if first = [] then if rest.isEmpty then [] else .root :: steps rest
    else if first = [dot] then .here :: steps rest
    else steps (first :: rest)

/-- Whether the components of `dir` are the first components of `path`. -/
def startsWith (path dir : RawPath) : Bool := dir.components.isPrefixOf path.components

/-! ## Languages -/

/-- The last component, if it is a name. -/
def fileName (path : RawPath) : Option RawPath :=
  match path.components.getLast? with
  | some (.name n) => some n
  | _ => none

/-- What follows the last dot of a file name, if something precedes that dot. -/
def extensionOf (name : RawPath) : Option RawPath :=
  match (name.splitOn dot).reverse with
  | [] | [_] => none
  | last :: stem => if stem = [[]] then none else some last

/-- The extension of the file name. -/
def extension (path : RawPath) : Option RawPath := path.fileName.bind extensionOf

/-- The language that the extension tells. -/
def language (path : RawPath) : Language :=
  match path.extension.bind text? with
  | some e => Language.ofExtension e
  | none => .plain

/-! ## Order -/

/-- Whether one name comes before or is another, by bytes. -/
def nameLe : RawPath → RawPath → Bool
  | [], _ => true
  | _ :: _, [] => false
  | a :: as, b :: bs => if a = b then nameLe as bs else a < b

/-- Whether one list of names comes before or is another, name by name. -/
def namesLe : List RawPath → List RawPath → Bool
  | [], _ => true
  | _ :: _, [] => false
  | a :: as, b :: bs => if a = b then namesLe as bs else nameLe a b

/-! ## Writing -/

/-- What stands for bytes that are no character. -/
def replacement : Char := '\ufffd'

/-- A character that has begun: how many bytes it lacks, its number so far, and the bounds of the byte that
goes on with it. -/
structure Begun where
  lacking : Nat
  number : Nat
  low : UInt8
  high : UInt8

/-- What a first byte writes, and what it begins.  A character of more bytes must not be written in more
than it needs, must not be a surrogate, and must not lie beyond the last character. -/
def beginning (byte : UInt8) : Text × Option Begun :=
  if byte < 0x80 then ([Char.ofNat byte.toNat], none)
  else if 0xC2 ≤ byte && byte < 0xE0 then ([], some ⟨1, byte.toNat - 0xC0, 0x80, 0xBF⟩)
  else if 0xE0 ≤ byte && byte < 0xF0 then
    ([], some ⟨2, byte.toNat - 0xE0, if byte = 0xE0 then 0xA0 else 0x80,
      if byte = 0xED then 0x9F else 0xBF⟩)
  else if 0xF0 ≤ byte && byte < 0xF5 then
    ([], some ⟨3, byte.toNat - 0xF0, if byte = 0xF0 then 0x90 else 0x80,
      if byte = 0xF4 then 0x8F else 0xBF⟩)
  else ([replacement], none)

/-- What the next byte writes, and what has begun behind it.  A character that does not go on is replaced,
and the byte begins anew. -/
def next (byte : UInt8) : Option Begun → Text × Option Begun
  | none => beginning byte
  | some begun =>
    if begun.low ≤ byte && byte ≤ begun.high then
      let number := 64 * begun.number + (byte.toNat - 0x80)
      if begun.lacking = 1 then ([Char.ofNat number], none)
      else ([], some ⟨begun.lacking - 1, number, 0x80, 0xBF⟩)
    else
      let anew := beginning byte
      (replacement :: anew.1, anew.2)

/-- The characters of bytes behind a character that has begun. -/
def characters (begun : Option Begun) : RawPath → Text
  | [] => begun.toList.map fun _ => replacement
  | byte :: rest =>
    let written := next byte begun
    written.1 ++ characters written.2 rest

/-- A path in writing: its text, or where it is none its characters. -/
def shown (path : RawPath) : Path := path.text?.getD (characters none path)

/-- A surrogate, a sequence that breaks off, and one that is written in more bytes than it needs. -/
example : characters none [0xED, 0xA0, 0x41, 0xE2, 0x82, 0x42, 0xC0, 0xAF] =
    [replacement, replacement, 'A', replacement, 'B', replacement, replacement] := by decide

end RawPath

end CodeRetrieval
