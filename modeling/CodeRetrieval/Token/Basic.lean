/-
# CodeRetrieval.Token.Basic — the search terms of a text.

A word is a maximal run of word characters.  A word with underscores is cut at them, any other word at
its changes of case; a word without such parts counts as a whole.  Parts of one character are dropped
and the rest is put into small letters: these are the base tokens.  Neighbouring base tokens are
joined by underscores into pairs and triples, which count as terms of their own.
-/
import CodeRetrieval.Token.Identifier
import CodeRetrieval.Unicode.LowerCase
import CodeRetrieval.Unicode.Word
import Std.Data.HashMap

namespace CodeRetrieval.Token

/-- Put a word in front of others, unless it is empty. -/
def pushWord (word : Text) (words : List Text) : List Text :=
  if word.isEmpty then words else word :: words

/-- One more character, to the left of a text whose first word is still growing. -/
def extendWord (c : Char) (state : Text × List Text) : Text × List Text :=
  if Unicode.isWord c then (c :: state.1, state.2) else ([], pushWord state.1 state.2)

/-- The maximal runs of word characters. -/
def words (text : Text) : List Text :=
  let state := text.foldr extendWord ([], [])
  pushWord state.1 state.2

/-- The token of a part of a word: parts of one character give none. -/
def ofPart (part : Text) : Option Text :=
  if 1 < part.length then some (Unicode.lowerCase part) else none

/-- The tokens of a word. -/
def ofWord (word : Text) : List Text :=
  if word.contains '_' then (Text.split '_' word).filterMap ofPart
  else
    match Identifier.parts word with
    | [] => (ofPart word).toList
    | parts => parts.filterMap ofPart

/-- The base tokens of a text. -/
def base (text : Text) : List Text := (words text).flatMap ofWord

/-- Two tokens joined by an underscore. -/
def joinTokens (a b : Text) : Text := a ++ '_' :: b

/-- The pairs of neighbours. -/
def pairs (tokens : List Text) : List Text := List.zipWith joinTokens tokens tokens.tail

/-- The triples of neighbours. -/
def triples (tokens : List Text) : List Text :=
  List.zipWith joinTokens tokens (pairs tokens.tail)

/-- The terms of a text: its base tokens, then pairs, then triples. -/
def all (text : Text) : List Text :=
  let tokens := base text
  tokens ++ pairs tokens ++ triples tokens

/-- How often each entry of a list occurs. -/
def tally (tokens : List Text) : Std.HashMap Text Nat :=
  tokens.foldl (fun counts token => counts.insert token (counts.getD token 0 + 1)) ∅

/-- How often each term of a text occurs. -/
def counts (text : Text) : Std.HashMap Text Nat := tally (all text)

end CodeRetrieval.Token
