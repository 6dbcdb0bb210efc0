/-
# CodeRetrieval.Failure — what can go wrong, and how it is told.

A failure names its cause; `message` words it.  Whether a failed request is worth repeating follows
from the cause as well: a fault of the connection, a request too many and a fault of the server may
pass, everything else will come again.
-/
import CodeRetrieval.Path

namespace CodeRetrieval

/-- Why a pattern of files to skip is not a glob. -/
inductive GlobFault where
  | wildcards
  | recursion
  | range
deriving DecidableEq

/-- The fault in words. -/
def GlobFault.message : GlobFault → String
  | wildcards => "wildcards are either regular \x60*\x60 or recursive \x60**\x60"
  | recursion => "recursive wildcards must form a single path component"
  | range => "invalid range pattern"

/-- Why the settings cannot be used. -/
inductive ConfigFault where
  | windowOverlap (overlap lines : Nat)
  | skipPattern (quoted : Text) (position : Nat) (fault : GlobFault)
  | unknownProvider (name : Text)
  | missingKey
  | note (text : Text)
deriving DecidableEq

/-- The fault in words. -/
def ConfigFault.message : ConfigFault → String
  | windowOverlap overlap lines => s!"overlap ({overlap}) must be smaller than line_count ({lines})"
  | skipPattern quoted position fault =>
    s!"invalid skip pattern {String.ofList quoted}: Pattern syntax error near position {position}: " ++
      fault.message
  | unknownProvider name =>
    s!"unsupported embedding provider '{String.ofList name}': " ++
      "use \"openai\" and point base_url at any OpenAI-compatible server"
  | missingKey =>
    "embedding API key not found: set embedding.api_key in .sift.toml, SIFT_EMBEDDING_API_KEY or " ++
      "OPENAI_API_KEY, or use --lexical-only"
  | note text => String.ofList text

/-- Why no embedding was obtained. -/
inductive EmbeddingFault where
  | unreachable
  | badStatus (code : Nat) (reason : String) (body : Text)
  | brokenOff
  | unreadable
  | wrongCount (expected got : Nat)
  | noQueryVector
  | mixedQueryVectors
  | note (text : Text) (passing : Bool)
deriving DecidableEq

/-- The fault in words. -/
def EmbeddingFault.message : EmbeddingFault → String
  | unreachable => "HTTP request failed"
  | badStatus code reason body => s!"embedding API returned {code} {reason}: {String.ofList body}"
  | brokenOff => "failed to read response"
  | unreadable => "failed to parse response"
  | wrongCount expected got => s!"expected {expected} embeddings, got {got}"
  | noQueryVector => "provider returned no query embedding"
  | mixedQueryVectors => "inconsistent query embeddings"
  | note text _ => String.ofList text

/-- Whether the same request may succeed later. -/
def EmbeddingFault.isPassing : EmbeddingFault → Bool
  | unreachable | brokenOff => true
  | badStatus code _ _ => code == 429 || (500 ≤ code && code < 600)
  | note _ passing => passing
  | _ => false

/-- A failure of the library or the program. -/
inductive Failure where
  | io (detail : Text)
  | config (fault : ConfigFault)
  | parse (detail : Text)
  | fileAccess (path : Path) (reason : Text)
  | embedding (fault : EmbeddingFault)
  | worker (detail : Text)
  | serialization (detail : Text)
  | toml (detail : Text)
deriving DecidableEq

namespace Failure

/-- The failure in words. -/
def message : Failure → String
  | io detail => s!"IO error: {String.ofList detail}"
  | config fault => "configuration error: " ++ fault.message
  | parse detail => s!"parse error: {String.ofList detail}"
  | fileAccess path reason => s!"cannot access {String.ofList path}: {String.ofList reason}"
  | embedding fault => "embedding error: " ++ fault.message
  | worker detail => s!"worker failure: {String.ofList detail}"
  | serialization detail => s!"serialization error: {String.ofList detail}"
  | toml detail => s!"TOML parse error: {String.ofList detail}"

/-- Whether repeating the failed operation may succeed. -/
def isRetryable : Failure → Bool
  | embedding fault => fault.isPassing
  | _ => false

/-- What to do about it, where there is something to say. -/
def help : Failure → Option String
  | config _ => some "check the values in .sift.toml or the command-line flags"
  | _ => none

end Failure

end CodeRetrieval
