/-
# CodeRetrieval.Files.SkipPattern — globs for files to skip.

A question mark stands for one character, a star for any number, and both may stand for slashes.
Brackets list the characters that may stand in their place, or may not.  Two stars form a whole
component of the path and stand for any number of components.  There are no escapes.  A pattern is
matched by keeping the rests of the path that its tokens so far can leave, and never matches a path that is
no text.
-/
import CodeRetrieval.Failure
import CodeRetrieval.Path
import CodeRetrieval.Text.Quoted

namespace CodeRetrieval.Files

/-! ## Any globs -/

/-- A kind of globs: what a pattern is read as, or where and why it is none, and which paths it matches. -/
structure Globs (G : Type) where
  parse : Text → Except (Nat × GlobFault) G
  matchesPath : G → RawPath → Bool

namespace Globs

variable {G : Type}

/-- The globs of patterns, or the fault of the first that is none. -/
def parseAll (globs : Globs G) (patterns : List Text) : Except Failure (List G) :=
  patterns.mapM fun pattern =>
    match globs.parse pattern with
    | .ok glob => .ok glob
    | .error (position, fault) => .error (.config (.skipPattern pattern.quoted position fault))

end Globs

/-! ## Patterns of files to skip -/

namespace SkipPattern

/-- The part of a pattern. -/
inductive Token where
  | character (c : Char)
  | anyOne
  | anyRun
  | anyComponents
  | within (except : Bool) (ranges : List (Char × Char))
deriving DecidableEq

/-- The ranges between brackets. -/
def ranges : Text → List (Char × Char)
  | a :: '-' :: b :: rest => (a, b) :: ranges rest
  | a :: rest => (a, a) :: ranges rest
  | [] => []

/-- The text up to a closing bracket and the text behind it. -/
def cutBracket (text : Text) : Option (Text × Text) :=
  match text.dropWhile (· != ']') with
  | [] => none
  | _ :: rest => some (text.takeWhile (· != ']'), rest)

/-- What stands between brackets, behind the opening one: its first character may be a closing bracket. -/
def readBracket (text : Text) : Option (Token × Text) :=
  match text with
  | '!' :: a :: rest =>
    (cutBracket rest).map fun (inside, rest) => (.within true (ranges (a :: inside)), rest)
  | '!' :: _ => none
  | a :: rest =>
    (cutBracket rest).map fun (inside, rest) => (.within false (ranges (a :: inside)), rest)
  | [] => none

/-- The tokens from a position on.  `before` is the character in front, if there is one, and `read` holds
the tokens so far, newest first. -/
def readTokens (position : Nat) (before : Option Char) (read : List Token) :
    Nat → Text → Except (Nat × GlobFault) (List Token)
  | _, [] => .ok read.reverse
  | 0, _ => .ok read.reverse
  | _ + 1, '*' :: '*' :: '*' :: _ => .error (position + 2, .wildcards)
  | bound + 1, '*' :: '*' :: rest =>
    if before.isSome && before != some '/' then .error (position - 1, .recursion)
    else
      let read :=
        if read.head? = some .anyComponents ∧ 1 < read.length then read else .anyComponents :: read
      match rest with
      | [] => .ok read.reverse
      | '/' :: rest => readTokens (position + 3) (some '/') read bound rest
      | _ => .error (position + 2, .recursion)
  | bound + 1, '*' :: rest => readTokens (position + 1) (some '*') (.anyRun :: read) bound rest
  | bound + 1, '?' :: rest => readTokens (position + 1) (some '?') (.anyOne :: read) bound rest
  | bound + 1, '[' :: rest =>
    match readBracket rest with
    | none => .error (position, .range)
    | some (token, after) =>
      readTokens (position + 1 + (rest.length - after.length)) (some ']') (token :: read) bound after
  | bound + 1, c :: rest => readTokens (position + 1) (some c) (.character c :: read) bound rest

/-- The tokens of a pattern, or where and why it is none. -/
def parse (pattern : Text) : Except (Nat × GlobFault) (List Token) :=
  readTokens 0 none [] pattern.length pattern

/-- All rests of a text, the text itself first. -/
def rests : Text → List Text
  | [] => [[]]
  | c :: rest => (c :: rest) :: rests rest

/-- The rests that begin behind a slash. -/
def restsBehindSlash : Text → List Text
  | [] => []
  | c :: rest => if c = '/' then rest :: restsBehindSlash rest else restsBehindSlash rest

/-- The rests of a path that a token can leave. -/
def Token.leaves (token : Token) (path : Text) : List Text :=
  match token, path with
  | character c, d :: rest => if c = d then [rest] else []
  | anyOne, _ :: rest => [rest]
  | within except listed, d :: rest =>
    if (listed.any fun r => r.1 ≤ d && d ≤ r.2) != except then [rest] else []
  | anyRun, path => rests path
  | anyComponents, path => path :: (restsBehindSlash path ++ [[]])
  | _, [] => []

/-- Whether the tokens of a pattern match a whole path. -/
def matchesPath (tokens : List Token) (path : RawPath) : Bool :=
  match path.text? with
  | some text =>
    (tokens.foldl (fun left token => (left.flatMap token.leaves).eraseDups) [text]).contains []
  | none => false

/-- The patterns of files to skip. -/
def globs : Globs (List Token) := ⟨parse, matchesPath⟩

end SkipPattern

end CodeRetrieval.Files
