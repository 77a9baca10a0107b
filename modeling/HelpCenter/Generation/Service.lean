import HelpCenter.Failure
import HelpCenter.Json.Printer
import HelpCenter.Json.Reader
import HelpCenter.Number.Basic
import HelpCenter.Settings.Key
import HelpCenter.Text.Utf8

/-!
# Generation services

A service turns a prompt into text. Three of them take a JSON object over HTTP, one is a program
on the same machine. What is asked for is an inquiry; the service's protocol makes a call of it,
and the text of the answer is taken from the reply to that call.
-/

namespace HelpCenter

/-- The services that can be asked. -/
inductive Service where
  | anthropic
  | openai
  | google
  | ollama
deriving DecidableEq

/-- How to reach a service; what is not given has a default. -/
structure ServiceOptions where
  model : Option Text := none
  apiKey : Option Text := none
  baseUrl : Option Text := none
  maxTokens : Option Int := some 1000
  temperature : Option Number := none
  timeout : Option Number := some (.double (.ofInt 60))
  executable : Option Text := none

/-- A service with everything that is needed to ask it. -/
structure Writer where
  service : Service
  model : Text
  apiKey : Option Text := none
  baseUrl : Text := []
  maxTokens : Option Int := none
  temperature : Option Number := none
  timeout : Option Number := none
  executable : Text := []

/-- One question to a service. -/
structure Inquiry where
  prompt : Text
  model : Text
  maxTokens : Option Int := none
  temperature : Option Number := none
  apiKey : Option Text := none
  baseUrl : Option Text := none
  timeout : Option Number := none
  executable : Option Text := none

/-- What a service is sent. -/
inductive Call where
  | post (url : Text) (headers : List (Text × Text)) (body : Json) (timeout : Number)
  | program (args : List Text) (timeout : Option Number)

/-- What comes back. -/
inductive ServiceReply where
  | body (content : Bytes)
  | status (code : Int) (reason : Text) (content : Bytes)
  | unreachable (reason : Text)
  | timedOut
  | output (text : Text)
  | noProgram
  | exited (code : Int) (errors : Text)

namespace Service

/-- The name used in messages. -/
def label : Service → Text
  | .anthropic => lit "Anthropic"
  | .openai => lit "OpenAI"
  | .google => lit "Google"
  | .ollama => lit "Ollama"

/-- The service of a configured name. -/
def ofName? (name : Text) : Option Service :=
  [(lit "anthropic", .anthropic), (lit "openai", .openai), (lit "google", .google),
    (lit "ollama", .ollama)].lookup name

/-- The model asked when none is configured. -/
def defaultModel : Service → Text
  | .anthropic => lit "claude-3-5-haiku-20241022"
  | .openai => lit "gpt-4o-mini"
  | .google => lit "gemini-1.5-flash"
  | .ollama => lit "llama3.1"

/-- The address asked when none is configured; a program has none. -/
def defaultUrl : Service → Text
  | .anthropic => lit "https://api.anthropic.com"
  | .openai => lit "https://api.openai.com/v1"
  | .google => lit "https://generativelanguage.googleapis.com/v1beta"
  | .ollama => []

/-- The given text, or a default where there is none or an empty one. -/
def orDefault (given : Option Text) (default : Text) : Text :=
  match given with
  | some (c :: t) => c :: t
  | _ => default

/-- The service with its options. -/
def writer (s : Service) (o : ServiceOptions) : Writer :=
  let model := orDefault o.model s.defaultModel
  match s with
  | .ollama =>
    { service := s, model, timeout := o.timeout, executable := orDefault o.executable (lit "ollama") }
  | _ =>
    { service := s
      model
      apiKey := o.apiKey
      baseUrl := Text.trimRightBy (CodePoint.is '/') (orDefault o.baseUrl s.defaultUrl)
      maxTokens := o.maxTokens
      temperature := o.temperature
      timeout := o.timeout }

end Service

/-- The question that a prompt makes. A limit given with the prompt goes before the configured
one. -/
def Writer.inquiry (w : Writer) (prompt : Text) (maxTokens : Option Int) : Inquiry :=
  match w.service with
  | .ollama =>
    { prompt, model := w.model, maxTokens, timeout := w.timeout, executable := some w.executable }
  | _ =>
    { prompt
      model := w.model
      maxTokens := maxTokens.or w.maxTokens
      temperature := w.temperature
      apiKey := w.apiKey
      baseUrl := some w.baseUrl
      timeout := w.timeout }

end HelpCenter
