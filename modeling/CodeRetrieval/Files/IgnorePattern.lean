/-
# CodeRetrieval.Files.IgnorePattern — the globs of ignore files.

These globs work on the bytes of a path.  A question mark stands for one byte and a star for any
number, but for no slash.  Two stars as a whole component stand for any number of components.  Brackets
list bytes, braces list alternatives, and a backslash takes the next character as it is.  A bracket
that is never closed stands for itself, and so do all brackets behind it.
-/
import CodeRetrieval.Path

namespace CodeRetrieval.Files.IgnorePattern

/-- A part of a glob.  `leading`, `between` and `trailing` are two stars at the start, in the middle and
at the end, together with the slashes around them. -/
inductive Token where
  | literal (bytes : List UInt8)
  | anyOne
  | anyRun
  | leading
  | between
  | trailing
  | within (except : Bool) (ranges : List (UInt8 × UInt8))
  | choice (branches : List (List Token))

/-- The bytes of a character. -/
def bytesOf (c : Char) : List UInt8 := String.utf8EncodeChar c

/-! ## Reading -/

/-- The byte ranges of a range of characters: the bytes before the last of the first character and behind
the first of the second one stand for themselves. -/
def byteRanges (range : Char × Char) : List (UInt8 × UInt8) :=
  let single (b : UInt8) := (b, b)
  if range.1 = range.2 then (bytesOf range.1).map single
  else
    match (bytesOf range.1).reverse, bytesOf range.2 with
    | last :: before, first :: behind =>
      (before.reverse.map single) ++ (last, first) :: behind.map single
    | _, _ => []

/-- A bracket being read: its ranges, newest first, and whether a dash was read behind the newest. -/
structure Bracket where
  ranges : List (Char × Char)
  dashed : Bool

/-- Close the newest range with a character; ranges must not run backwards. -/
def Bracket.close (bracket : Bracket) (c : Char) : Option Bracket :=
  match bracket.ranges with
  | (a, _) :: rest => if c < a then none else some ⟨(a, c) :: rest, false⟩
  | [] => none

/-- Read a character between brackets. -/
def Bracket.step (bracket : Bracket) (c : Char) : Option Bracket :=
  if bracket.dashed then bracket.close c
  else if c = '-' ∧ bracket.ranges ≠ [] then some { bracket with dashed := true }
  else some { bracket with ranges := (c, c) :: bracket.ranges }

/-- The outcome of reading a bracket: never closed, wrong, or its ranges with the rest of the text. -/
inductive BracketEnd where
  | unclosed
  | wrong
  | closed (ranges : List (Char × Char)) (rest : Text)

/-- Read up to the closing bracket; a closing bracket in the first place stands for itself. -/
def readBracket (first : Bool) (bracket : Bracket) : Text → BracketEnd
  | [] => .unclosed
  | c :: rest =>
    if c = ']' ∧ first = false then
      .closed ((if bracket.dashed then [('-', '-')] else []) ++ bracket.ranges).reverse rest
    else
      match bracket.step c with
      | some next => readBracket false next rest
      | none => .wrong

/-- A glob being read: the character before, the branches begun, newest first and each with its newest
token first, the number of branches before each open brace, and whether brackets stand for
themselves. -/
structure State where
  before : Option Char
  branches : List (List Token)
  braces : List Nat
  plainBrackets : Bool

namespace State

/-- Before the first character. -/
def initial : State := ⟨none, [[]], [], false⟩

/-- Add a token to the newest branch. -/
def push (state : State) (token : Token) : State :=
  match state.branches with
  | newest :: others => { state with branches := (token :: newest) :: others }
  | [] => { state with branches := [[token]] }

/-- Add two single stars, which is what two stars inside a component are. -/
def pushTwoRuns (state : State) : State := (state.push .anyRun).push .anyRun

/-- Put two stars that form a component in the place of the slash, or the stars, before them. -/
def replaceNewest (state : State) (token : Token) : State :=
  match state.branches with
  | (.leading :: tokens) :: others => { state with branches := (.leading :: tokens) :: others }
  | (.trailing :: tokens) :: others => { state with branches := (.trailing :: tokens) :: others }
  | (_ :: tokens) :: others => { state with branches := (token :: tokens) :: others }
  | branches => { state with branches := branches }

/-- Whether the newest branch has no token. -/
def isFresh (state : State) : Bool := (state.branches.headD []).isEmpty

/-- Two stars, with the text behind them: the state after them and the text that is left. -/
def twoStars (state : State) (text : Text) : State × Text :=
  if state.isFresh then
    match text with
    | [] => (state.push .leading, [])
    | '/' :: rest => (state.push .leading, rest)
    | _ => (state.pushTwoRuns, text)
  else if state.before != some '/' &&
      (state.branches.length ≤ 1 || (state.before != some ',' && state.before != some '\x7b')) then
    (state.pushTwoRuns, text)
  else
    match text with
    | [] => (state.replaceNewest .trailing, [])
    | '/' :: rest => (state.replaceNewest .between, rest)
    | c :: _ =>
      if (c = ',' ∨ c = '\x7d') ∧ 2 ≤ state.branches.length then (state.replaceNewest .trailing, text)
      else (state.pushTwoRuns, text)

/-- Open a brace. -/
def openBrace (state : State) : State :=
  { state with braces := state.branches.length :: state.braces, branches := [] :: state.branches }

/-- Close the newest brace. -/
def closeBrace (state : State) : Option State :=
  match state.braces with
  | [] => none
  | outer :: rest =>
    let count := state.branches.length - outer
    let branches := ((state.branches.take count).map List.reverse).reverse
    some ({ state with braces := rest, branches := state.branches.drop count }.push (.choice branches))

/-- A comma: inside braces it begins another branch. -/
def comma (state : State) : State :=
  if state.braces.isEmpty then state.push (.literal (bytesOf ','))
  else { state with branches := [] :: state.branches }

end State

/-- Read a glob; nothing if it is wrong. -/
def readTokens (state : State) : Nat → Text → Option (List Token)
  | _, [] => if state.braces.isEmpty then some (state.branches.headD []).reverse else none
  | 0, _ => none
  | bound + 1, c :: rest =>
    let after (next : State) : State := { next with before := some c }
    if c = '?' then readTokens (after (state.push .anyOne)) bound rest
    else if c = '*' then
      match rest with
      | '*' :: rest =>
        let (next, left) := state.twoStars rest
        let before := if left.length < rest.length ∧ rest.head? = some '/' then some '/' else some '*'
        readTokens { next with before := before } bound left
      | rest => readTokens (after (state.push .anyRun)) bound rest
    else if c = '[' ∧ state.plainBrackets = false then
      let (except, inside) := match rest with
        | '!' :: r => (true, r)
        | '^' :: r => (true, r)
        | r => (false, r)
      match readBracket true ⟨[], false⟩ inside with
      | .unclosed =>
        readTokens (after { state.push (.literal (bytesOf '[')) with plainBrackets := true }) bound rest
      | .wrong => none
      | .closed ranges left =>
        readTokens { state.push (.within except (ranges.flatMap byteRanges)) with before := some ']' }
          bound left
    else if c = '\x7b' then readTokens (after state.openBrace) bound rest
    else if c = '\x7d' then
      match state.closeBrace with
      | some next => readTokens (after next) bound rest
      | none => none
    else if c = ',' then readTokens (after state.comma) bound rest
    else if c = '\\' then
      match rest with
      | d :: rest => readTokens { state.push (.literal (bytesOf d)) with before := some d } bound rest
      | [] => none
    else readTokens (after (state.push (.literal (bytesOf c)))) bound rest

/-- The tokens of a glob. -/
def parse (glob : Text) : Option (List Token) := readTokens State.initial glob.length glob

/-! ## Matching -/

/-- All rests of a path. -/
def rests : List UInt8 → List (List UInt8)
  | [] => [[]]
  | b :: rest => (b :: rest) :: rests rest

/-- The rests within the first component. -/
def restsInside : List UInt8 → List (List UInt8)
  | [] => [[]]
  | b :: rest => (b :: rest) :: if b = RawPath.slash then [] else restsInside rest

/-- The rests that begin behind a slash. -/
def restsBehindSlash : List UInt8 → List (List UInt8)
  | [] => []
  | b :: rest => if b = RawPath.slash then rest :: restsBehindSlash rest else restsBehindSlash rest

/-- The rest behind a slash in front. -/
def behindSlash : List UInt8 → Option (List UInt8)
  | [] => none
  | b :: rest => if b = RawPath.slash then some rest else none

mutual

/-- Whether a token stands for nothing at all. -/
def Token.isSilent : Token → Bool
  | .choice branches => allSilent branches
  | _ => false

/-- Whether all tokens of a branch stand for nothing. -/
def branchSilent : List Token → Bool
  | [] => true
  | token :: rest => token.isSilent && branchSilent rest

/-- Whether all branches stand for nothing. -/
def allSilent : List (List Token) → Bool
  | [] => true
  | branch :: rest => branchSilent branch && allSilent rest

end

mutual

/-- The rests of a path that a token can leave. -/
def Token.leaves : Token → List UInt8 → List (List UInt8)
  | .literal bytes, path => if bytes.isPrefixOf path then [path.drop bytes.length] else []
  | .anyOne, path =>
    match path with
    | b :: rest => if b = RawPath.slash then [] else [rest]
    | [] => []
  | .anyRun, path => restsInside path
  | .leading, path => path :: ((behindSlash path).toList ++ restsBehindSlash path)
  | .between, path =>
    match behindSlash path with
    | some rest => rest :: restsBehindSlash rest
    | none => []
  | .trailing, path =>
    match behindSlash path with
    | some rest => rests rest
    | none => []
  | .within except ranges, path =>
    match path with
    | b :: rest => if (ranges.any fun r => r.1 ≤ b && b ≤ r.2) != except then [rest] else []
    | [] => []
  | .choice branches, path => if allSilent branches then [path] else branchesLeave branches path

/-- The rests that a sequence of tokens can leave of the paths given. -/
def sequenceLeaves : List Token → List (List UInt8) → List (List UInt8)
  | [], paths => paths
  | token :: rest, paths => sequenceLeaves rest (paths.flatMap token.leaves).eraseDups

/-- The rests that one of the branches can leave; branches that stand for nothing do not count. -/
def branchesLeave : List (List Token) → List UInt8 → List (List UInt8)
  | [], _ => []
  | branch :: rest, path =>
    (if branchSilent branch then [] else sequenceLeaves branch [path]) ++ branchesLeave rest path

end

/-- Whether a glob matches a whole path.  Two stars alone match every path. -/
def matchesPath (tokens : List Token) (path : RawPath) : Bool :=
  match tokens with
  | [.leading] => true
  | _ => (sequenceLeaves tokens [path]).contains []

end CodeRetrieval.Files.IgnorePattern
