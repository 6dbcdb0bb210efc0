/-
# CodeRetrieval.Lexical.Index — documents found by their terms.

The index keeps, for every term, the documents that hold it and how often, and the length of every
document in terms.
-/
import CodeRetrieval.Token.Basic

namespace CodeRetrieval

/-- A text with the title under which its score is kept. -/
structure Document where
  title : Text
  content : Text

namespace Lexical

/-- A document, by its place in the collection, and how often it holds the term. -/
structure Posting where
  document : Nat
  frequency : Nat

/-- The postings of every term, and the titles and lengths of the documents. -/
structure Index where
  postings : Std.HashMap Text (Array Posting)
  titles : Array Text
  lengths : Array Nat

namespace Index

/-- Lengths put together. -/
def total (lengths : List Nat) : Nat := lengths.foldl (· + ·) 0

/-- The index of no documents. -/
def empty : Index := ⟨∅, #[], #[]⟩

/-- Add a posting to those of a term. -/
def post (document : Nat) (postings : Std.HashMap Text (Array Posting)) (entry : Text × Nat) :
    Std.HashMap Text (Array Posting) :=
  postings.insert entry.1 ((postings.getD entry.1 #[]).push ⟨document, entry.2⟩)

/-- Add a document behind the others, its terms listed in some order, each with its frequency. -/
def addListed (index : Index) (title : Text) (entries : List (Text × Nat)) : Index where
  postings := entries.foldl (post index.titles.size) index.postings
  titles := index.titles.push title
  lengths := index.lengths.push (total (entries.map (·.2)))

/-- Add a document behind the others. -/
def add (index : Index) (document : Document) : Index :=
  index.addListed document.title (Token.counts document.content).toList

/-- The index of a collection. -/
def ofDocuments (documents : List Document) : Index := documents.foldl add empty

/-- The number of documents. -/
def size (index : Index) : Nat := index.titles.size

/-- The number of terms of all documents together. -/
def totalLength (index : Index) : Nat := total index.lengths.toList

/-- The postings of a term. -/
def find (index : Index) (term : Text) : List Posting := (index.postings.getD term #[]).toList

end Index

end Lexical

end CodeRetrieval
