/-
# CodeRetrieval.Embedding.Client — a provider behind a web service.

A client knows the service's address, the model, an optional key and how often to retry.  It sends the
texts of a batch in one request, with a blank in place of each empty text, and repeats the request
while the failure may pass.  A response carries one item for each text; if every item tells its index,
the items are put into the order of their indices, otherwise they stand as they came.
-/
import CodeRetrieval.Embedding.Backoff
import CodeRetrieval.Json.Parser
import CodeRetrieval.Settings
import CodeRetrieval.Text.Quoted

namespace CodeRetrieval

/-- How to reach the service. -/
structure Client where
  apiKey : Option Text
  baseUrl : Text
  model : Text
  maxRetries : Nat

namespace Client

/-! ## Setting up -/

/-- The one provider there is; other services speak its language under their own address. -/
def knownProvider : Text := Text.ofString "openai"

/-- The address when none is configured. -/
def defaultUrl : Text := Text.ofString "https://api.openai.com/v1"

/-- An ASCII letter in small form. -/
def smallAscii (c : Char) : Char := if 'A' ≤ c ∧ c ≤ 'Z' then Char.ofNat (c.toNat + 32) else c

/-- A text without the slashes at its end. -/
def dropSlashes (url : Text) : Text := (url.reverse.dropWhile (· == '/')).reverse

/-- The client for the default service. -/
def ofKey (key : Text) : Client :=
  ⟨some key, defaultUrl, EmbeddingSettings.standard.model, EmbeddingSettings.standard.maxRetries⟩

/-- The keys that the environment offers, first choice first. -/
def keyVariables : List String := ["SIFT_EMBEDDING_API_KEY", "OPENAI_API_KEY"]

/-- The key: the configured one, else the first that the environment has; a blank key is none. -/
def chooseKey (configured : Option Text) (environment : String → Option Text) : Option Text :=
  (configured.or (keyVariables.findSome? environment)).filter (fun key => !key.isBlank)

/-- The client of the settings. -/
def ofSettings (settings : EmbeddingSettings) (environment : String → Option Text) :
    Except Failure Client :=
  if settings.provider.map smallAscii ≠ knownProvider then
    .error (.config (.unknownProvider settings.provider))
  else
    let key := chooseKey settings.apiKey environment
    if key.isNone && settings.baseUrl.isNone then .error (.config .missingKey)
    else .ok ⟨key, dropSlashes (settings.baseUrl.getD defaultUrl), settings.model, settings.maxRetries⟩

/-- The client in words, without its key. -/
def describe (client : Client) : Text :=
  Text.ofString "EmbeddingClient \x7b base_url: " ++ client.baseUrl.quoted ++
    Text.ofString ", model: " ++ client.model.quoted ++
    Text.ofString ", max_retries: " ++ Text.ofNat client.maxRetries ++ Text.ofString ", .. \x7d"

/-! ## Requests and answers -/

/-- A request: where it goes, with which key, and what it says. -/
structure Request where
  url : Text
  bearer : Option Text
  model : Text
  input : List Text
deriving DecidableEq

/-- The text sent for a text: empty texts are refused by the service. -/
def sendable (text : Text) : Text := if text.isEmpty then [' '] else text

/-- The request for a batch. -/
def request (client : Client) (texts : List Text) : Request :=
  ⟨client.baseUrl ++ Text.ofString "/embeddings", client.apiKey, client.model, texts.map sendable⟩

/-- The body of a request. -/
def Request.body (r : Request) : Json :=
  Json.ofMembers [("model", Json.ofText r.model), ("input", .array (r.input.map Json.ofText))]

/-- What comes back: nothing at all, a connection closed without an answer, a response, or one whose
body breaks off. -/
inductive Answer where
  | refused
  | closed
  | response (status : Nat) (body : Text)
  | broken (status : Nat)

/-- Whether the request has reached the service: a refused connection takes none. -/
def Answer.isReached : Answer → Bool
  | .refused => false
  | _ => true

/-- The standard phrases of the status codes. -/
def reasonPhrases : List (Nat × String) :=
  [(100, "Continue"), (101, "Switching Protocols"), (102, "Processing"), (200, "OK"), (201, "Created"),
   (202, "Accepted"), (203, "Non Authoritative Information"), (204, "No Content"),
   (205, "Reset Content"), (206, "Partial Content"), (207, "Multi-Status"), (208, "Already Reported"),
   (226, "IM Used"), (300, "Multiple Choices"), (301, "Moved Permanently"), (302, "Found"),
   (303, "See Other"), (304, "Not Modified"), (305, "Use Proxy"), (307, "Temporary Redirect"),
   (308, "Permanent Redirect"), (400, "Bad Request"), (401, "Unauthorized"),
   (402, "Payment Required"), (403, "Forbidden"), (404, "Not Found"), (405, "Method Not Allowed"),
   (406, "Not Acceptable"), (407, "Proxy Authentication Required"), (408, "Request Timeout"),
   (409, "Conflict"), (410, "Gone"), (411, "Length Required"), (412, "Precondition Failed"),
   (413, "Payload Too Large"), (414, "URI Too Long"), (415, "Unsupported Media Type"),
   (416, "Range Not Satisfiable"), (417, "Expectation Failed"), (418, "I'm a teapot"),
   (421, "Misdirected Request"), (422, "Unprocessable Entity"), (423, "Locked"),
   (424, "Failed Dependency"), (425, "Too Early"), (426, "Upgrade Required"),
   (428, "Precondition Required"), (429, "Too Many Requests"),
   (431, "Request Header Fields Too Large"), (451, "Unavailable For Legal Reasons"),
   (500, "Internal Server Error"), (501, "Not Implemented"), (502, "Bad Gateway"),
   (503, "Service Unavailable"), (504, "Gateway Timeout"), (505, "HTTP Version Not Supported"),
   (506, "Variant Also Negotiates"), (507, "Insufficient Storage"), (508, "Loop Detected"),
   (510, "Not Extended"), (511, "Network Authentication Required")]

/-- The phrase of a status code. -/
def reasonPhrase (status : Nat) : String :=
  match reasonPhrases.find? (·.1 == status) with
  | some (_, phrase) => phrase
  | none => "<unknown status code>"

/-! ## Reading a response -/

/-- An item of a response: a vector and, perhaps, the index of the text it belongs to. -/
structure Item where
  vector : List Binary64
  index : Option Nat

/-- The one member of a name, if it is there exactly once. -/
def single? (members : List (Option Text × Json)) (name : String) : Option Json :=
  match members.filter (·.1 == some name.toList) with
  | [(_, value)] => some value
  | _ => none

/-- A vector in single precision. -/
def vectorOf? (value : Json) : Option (List Binary64) := do
  (← value.toList?).mapM Json.toSingle?

/-- An index, which null leaves open. -/
def indexOf? : Json → Option (Option Nat)
  | .null => some none
  | value => (value.toNat?.filter (· < twoTo 64)).map some

/-- An item as an object, or as an array of its values. -/
def itemOf? : Json → Option Item
  | .object members => do
    if members.any (·.1.isNone) then none
    let vector ← vectorOf? (← single? members "embedding")
    match members.filter (·.1 == some "index".toList) with
    | [] => return ⟨vector, none⟩
    | [(_, value)] => return ⟨vector, ← indexOf? value⟩
    | _ => none
  | .array [vector] => do return ⟨← vectorOf? vector, none⟩
  | .array [vector, index] => do return ⟨← vectorOf? vector, ← indexOf? index⟩
  | _ => none

/-- The items of a response body. -/
def readItems (body : Text) : Option (List Item) := do
  match ← Json.parse body with
  | .object members =>
    if members.any (·.1.isNone) then none
    (← (← single? members "data").toList?).mapM itemOf?
  | .array [data] => (← data.toList?).mapM itemOf?
  | _ => none

/-- The items in the order of their indices if each has one. -/
def arrange (items : List Item) : List Item :=
  if items.all (·.index.isSome) then items.mergeSort (fun a b => a.index.getD 0 ≤ b.index.getD 0)
  else items

/-- The vectors of a response to a number of texts. -/
def readResponse (body : Text) (expected : Nat) : Except Failure (List (List Binary64)) :=
  match readItems body with
  | none => .error (.embedding .unreadable)
  | some items =>
    if items.length ≠ expected then .error (.embedding (.wrongCount expected items.length))
    else .ok ((arrange items).map (·.vector))

/-- Whether a status tells of success. -/
def isSuccess (status : Nat) : Bool := 200 ≤ status && status < 300

/-- The failure that any other status stands for. -/
def refusal (status : Nat) (body : Text) : Failure :=
  .embedding (.badStatus status (reasonPhrase status) body)

/-- What stands for the body of a refusal if it breaks off. -/
def lostBody : Text := Text.ofString "unable to read response body"

/-- The outcome of an answer to a request for a number of texts. -/
def readAnswer (expected : Nat) : Answer → Except Failure (List (List Binary64))
  | .refused | .closed => .error (.embedding .unreachable)
  | .response status body =>
    if isSuccess status then readResponse body expected else .error (refusal status body)
  | .broken status =>
    if isSuccess status then .error (.embedding .brokenOff) else .error (refusal status lostBody)

/-! ## Asking -/

/-- The first wait between two requests: two hundred milliseconds. -/
def firstWait : Nat := 200 * tenTo 6

/-- What asking for a batch came to: the vectors or a failure, the requests sent, one for each attempt,
and those of them that reached the service. -/
structure Exchange where
  outcome : Except Failure (List (List Binary64))
  sent : List Request
  requests : List Request

/-- Ask for the vectors of a batch, given the answer to each attempt.  An empty batch needs no
request. -/
def embed (client : Client) (answers : Nat → Answer) (texts : List Text) : Exchange :=
  if texts.isEmpty then ⟨.ok [], [], []⟩
  else
    let run := Backoff.run client.maxRetries firstWait fun attempt =>
      readAnswer texts.length (answers attempt)
    let reached := (List.range run.attempts).filter fun attempt => (answers attempt).isReached
    ⟨run.outcome, List.replicate run.attempts (client.request texts),
      reached.map fun _ => client.request texts⟩

end Client

end CodeRetrieval
