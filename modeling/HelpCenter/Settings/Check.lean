import HelpCenter.Pattern.Reader
import HelpCenter.Settings.Basic

/-!
# Usable settings

Settings are used only after these checks, which are made in order; the first one that fails gives
the fault.
-/

namespace HelpCenter

/-- The failure of a pattern that cannot be read. -/
def PatternFault.failure : PatternFault → Failure
  | .malformed => .badPattern
  | .hugeCount => .data .outOfRange
  | .conflictingFlags => .data .unreadable

namespace Settings

/-- Checks the settings of the scan. -/
def checkScan (s : ScanSettings) : Except Failure Unit :=
  if s.includes.isEmpty then .error (.config .noInclude)
  else if !frameworks.contains s.framework then .error (.config (.badFramework frameworks))
  else if s.workers.any fun n => n < 1 then .error (.config .badWorkers)
  else .ok ()

/-- Checks a pattern of a custom topic; only those between slashes can be wrong. -/
def checkPattern (topic pattern : Text) : Except Failure Unit :=
  match patternBody? pattern with
  | none => .ok ()
  | some body =>
    match CompiledPattern.read {} body with
    | .ok _ => .ok ()
    | .error .malformed => .error (.config (.badPattern topic pattern))
    | .error fault => .error fault.failure

/-- Checks a custom topic. -/
def checkTopic (t : CustomTopic) : Except Failure Unit :=
  if t.id.isEmpty || t.patterns.isEmpty then .error (.config .incompleteTopic)
  else t.patterns.forM (checkPattern t.id)

/-- Checks the settings of documents. -/
def checkDocs (s : DocsSettings) : Except Failure Unit := do
  if !formats.contains s.format then throw (.config (.badFormat formats))
  if s.topics.isEmpty then throw (.config .noTopics)
  s.customTopics.forM checkTopic

/-- Checks the model settings. -/
def checkModel (s : ModelSettings) : Except Failure Unit :=
  if s.provider.isEmpty then .error (.config .noProvider)
  else if !providers.contains s.provider then .error (.config (.unknownProvider s.provider))
  else if (s.model.getD []).isEmpty && s.provider ≠ lit "mock" then .error (.config .noModel)
  else if s.maxTokens ≤ 0 then .error (.config .badMaxTokens)
  else if s.concurrency < 1 then .error (.config .badConcurrency)
  else .ok ()

/-- Checks all settings. -/
def check (s : Settings) : Except Failure Unit := do
  checkScan s.scan
  checkDocs s.docs
  checkModel s.model

end Settings

end HelpCenter
