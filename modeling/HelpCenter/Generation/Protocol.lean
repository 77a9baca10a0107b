import HelpCenter.Generation.Host
import HelpCenter.Generation.Service
import HelpCenter.Text.Blank

/-!
# Service protocols

How each service wants to be asked and where its reply has the text.
-/

namespace HelpCenter

/-- The fault as a failure. -/
def GenerationFault.fail (f : GenerationFault) : Except Failure α := .error (.generation f)

namespace Url

/-- Whether a character stands for itself in a path. -/
def isPathChar (b : UInt8) : Bool :=
  let c := CodePoint.ofNat b.toNat
  c.isLetter || c.isDigit || c.is '_' || c.is '.' || c.is '-' || c.is '~' || c.is '/'

/-- A byte as a percent sign and two upper case digits. -/
def escapedByte (b : UInt8) : Text :=
  let digit (n : Nat) : CodePoint := CodePoint.ofNat (if n < 10 then n + 48 else n + 55)
  ['%', digit (b.toNat / 16), digit (b.toNat % 16)]

/-- The text as part of a path; the bytes of other characters are escaped. -/
def quotePath (t : Text) : Except Failure Text :=
  match Text.toUtf8? t with
  | some bytes => .ok (bytes.flatMap fun b =>
    if isPathChar b then [CodePoint.ofNat b.toNat] else escapedByte b)
  | none => .error (.data .notEncodable)

/-- The address without blanks, angle brackets and a leading `URL:` around it. -/
def unwrap (t : Text) : Text :=
  let t := Text.trim t
  let t :=
    match t with
    | c :: rest =>
      if c.is '<' && t.getLast? = some '>' then Text.trim rest.dropLast else t
    | [] => t
  match Text.afterPrefix? (lit "URL:") t with
  | some rest => Text.trim rest
  | none => t

/-- The part of an address before its last number sign. -/
def beforeFragment (t : Text) : Text :=
  if t.contains '#' then ((t.reverse.dropWhile fun c => !c.is '#').drop 1).reverse else t

/-- Whether the address begins with a scheme. -/
def hasScheme (t : Text) : Bool :=
  let scheme := t.takeWhile fun c => !c.is '/' && !c.is ':'
  !scheme.isEmpty && (t.drop scheme.length).head? = some ':'

end Url

namespace Inquiry

/-- The messages of a conversation that holds the prompt alone. -/
def messages (q : Inquiry) : Json :=
  .arr [.ofFields [("role", .str (lit "user")), ("content", .str q.prompt)]]

/-- The temperature as a member, if there is one. -/
def temperatureMember (q : Inquiry) : List (String × Json) :=
  q.temperature.toList.map fun x => ("temperature", x.toJson)

/-- The call for a JSON object at an address, if the object can be printed and the address leads
anywhere. -/
def post (q : Inquiry) (url : Text) (headers : List (Text × Text))
    (body : List (String × Json)) : Except Failure Call :=
  let url := Url.unwrap url
  let timeout :=
    match q.timeout with
    | some (.int n) => if n = 0 then Number.double (.ofInt 60) else .int n
    | some (.double x) => if x.isZero then .double (.ofInt 60) else .double x
    | none => .double (.ofInt 60)
  if (Json.ofFields body).isPrintable && Url.hasScheme (Url.beforeFragment url) &&
      Url.hasGoodHost url then
    .ok (.post url ((lit "content-type", lit "application/json") :: headers) (.ofFields body) timeout)
  else .error (.data .unreadable)

/-- The key, which must not be missing. -/
def neededKey (q : Inquiry) (s : Service) : Except Failure Text :=
  match q.apiKey with
  | some (c :: key) => .ok (c :: key)
  | _ => GenerationFault.fail (.noApiKey s.label)

/-- The limit as a member, if there is one. -/
def limitMember (q : Inquiry) (name : String) : List (String × Json) :=
  q.maxTokens.toList.map fun n => (name, .int n)

/-- The call that asks a service. -/
def call (q : Inquiry) : Service → Except Failure Call
  | .anthropic => do
    let key ← q.neededKey .anthropic
    let limit := (q.maxTokens.filter (· ≠ 0)).getD 1000
    q.post (q.baseUrl.getD [] ++ lit "/v1/messages")
      [(lit "x-api-key", key), (lit "anthropic-version", lit "2023-06-01")]
      ([("model", .str q.model), ("max_tokens", .int limit), ("messages", q.messages)] ++
        q.temperatureMember)
  | .openai => do
    let base := q.baseUrl.getD []
    if base.isEmpty then GenerationFault.fail (.noBaseUrl Service.openai.label)
    let key := q.apiKey.getD []
    q.post (base ++ lit "/chat/completions")
      (if key.isEmpty then [] else [(lit "authorization", lit "Bearer " ++ key)])
      ([("model", .str q.model), ("messages", q.messages)] ++ q.temperatureMember ++
        q.limitMember "max_tokens")
  | .google => do
    let key ← q.neededKey .google
    let model ← Url.quotePath q.model
    let config := q.limitMember "maxOutputTokens" ++ q.temperatureMember
    let contents := .arr [.ofFields [("role", .str (lit "user")),
      ("parts", .arr [.ofFields [("text", .str q.prompt)]])]]
    q.post (q.baseUrl.getD [] ++ lit "/models/" ++ model ++ lit ":generateContent")
      [(lit "x-goog-api-key", key)]
      (("contents", contents) ::
        (if config.isEmpty then [] else [("generationConfig", .ofFields config)]))
  | .ollama =>
    .ok (.program [q.executable.getD [], lit "run", q.model, q.prompt] q.timeout)

/-- The time limit as messages show it. -/
def timeoutText (q : Inquiry) : Except Failure Text :=
  match q.timeout with
  | some x => if x.toJson.isPrintable then .ok x.toText else .error (.data .unreadable)
  | none => .ok (lit "None")

end Inquiry

namespace Service

/-- The first item of a list. -/
def first? : Option Json → Option Json
  | some (.arr items) => items.head?
  | _ => none

/-- The member as a text. -/
def textMember? (name : String) (j : Json) : Option Text := (j.get? (lit name)).bind Json.str?

/-- The text in a reply's object, empty where it has none. -/
def content (s : Service) (reply : Json) : Text :=
  let member (name : String) := reply.get? (lit name)
  match s with
  | .anthropic =>
    match member "content" with
    | some (.arr blocks) => (blocks.filterMap fun b =>
      if textMember? "type" b = some (lit "text") then textMember? "text" b else none).flatten
    | _ => []
  | .openai =>
    match first? (member "choices") with
    | some choice =>
      (((choice.get? (lit "message")).bind (textMember? "content")).or
        (textMember? "text" choice)).getD []
    | none => []
  | .google =>
    match ((first? (member "candidates")).bind (·.get? (lit "content"))).bind
        (·.get? (lit "parts")) with
    | some (.arr parts) => (parts.filterMap (textMember? "text")).flatten
    | _ => []
  | .ollama => []

/-- The trimmed text, which must not be blank. -/
def neededText (s : Service) (t : Text) : Except Failure Text :=
  if Text.isBlank t then GenerationFault.fail (.emptyResponse s.label) else .ok (Text.trim t)

/-- The object in a reply's bytes. -/
def object (s : Service) (bytes : Bytes) : Except Failure Json :=
  match (Utf8.decode bytes).map Json.parse with
  | .ok (.ok (.obj members)) => .ok (.obj members)
  | .ok (.ok _) => GenerationFault.fail (.unexpectedPayload s.label)
  | .ok (.error .hugeInteger) => .error (.data .unreadable)
  | .ok (.error .malformed) | .error _ => GenerationFault.fail (.invalidJson s.label)

/-- The text that a reply gives. -/
def text (s : Service) (q : Inquiry) : ServiceReply → Except Failure Text
  | .body bytes => do s.neededText (s.content (← s.object bytes))
  | .status code reason bytes =>
    let detail := Text.trim (Utf8.decodeLenient bytes)
    GenerationFault.fail (.status s.label (Text.ofInt code) (if detail.isEmpty then reason else detail))
  | .unreachable reason => GenerationFault.fail (.unreachable s.label reason)
  | .timedOut => do
    let seconds ← q.timeoutText
    GenerationFault.fail (if s = .ollama then .noAnswer seconds else .timedOut s.label seconds)
  | .output t => s.neededText t
  | .noProgram => GenerationFault.fail (.programNotFound (q.executable.getD []))
  | .exited code errors => GenerationFault.fail (.exitCode code (Text.trim errors))

end Service

end HelpCenter
