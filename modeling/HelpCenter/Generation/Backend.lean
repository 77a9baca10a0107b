import HelpCenter.Generation.Batch
import HelpCenter.Generation.Offline
import HelpCenter.Generation.Protocol

/-!
# Backends

A project's settings choose who answers its prompts: a service, or the offline writer.
-/

namespace HelpCenter

/-- Who answers a project's prompts. -/
inductive Backend where
  | offline
  | service (writer : Writer)

namespace Backend

/-- The backend that settings choose. -/
def ofSettings (s : ModelSettings) (env : Environment) : Except Failure Backend := do
  if s.provider = lit "mock" then return .offline
  if s.provider = lit "ollama" then
    return .service (Service.ollama.writer {
      model := s.model, executable := s.executable, timeout := some s.requestTimeout })
  let key ← s.key env
  match Service.ofName? s.provider with
  | some protocol =>
    return .service (protocol.writer {
      model := s.model
      apiKey := key
      baseUrl := s.baseUrl
      maxTokens := some s.maxTokens
      temperature := s.temperature
      timeout := some s.requestTimeout })
  | none => throw (.config (.unsupportedProvider s.provider))

/-- The backend as an author of articles with a limit on their length; `send` carries a call to a
service. -/
def author (b : Backend) (send : Call → ServiceReply) (maxTokens : Option Int) : Author :=
  fun prompt =>
    match b with
    | .offline => .ok (Offline.reply prompt)
    | .service w => do
      let inquiry := w.inquiry prompt maxTokens
      w.service.text inquiry (send (← inquiry.call w.service))

end Backend

end HelpCenter
