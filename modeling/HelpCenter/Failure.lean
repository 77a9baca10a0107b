import HelpCenter.Text.Search
import HelpCenter.Text.Utf8

/-!
# Failures

Every way in which an operation can fail, as a cause. `Failure.message` gives the text that users
see, and `Failure.cause` what lies behind it, which is shown after a colon.
-/

namespace HelpCenter

/-- Why a loose value does not fit where it is used. -/
inductive DataFault where
  /-- A required member is absent. -/
  | missing (name : Text)
  /-- The value has a kind that cannot be converted. -/
  | wrongKind
  /-- The text or number cannot be converted. -/
  | unreadable
  /-- The number has no counterpart in the target. -/
  | outOfRange
  /-- The value has no such part. -/
  | noPart
  /-- There is nothing at the position asked for. -/
  | outOfBounds
  /-- The bytes are not UTF-8. -/
  | notUtf8 (fault : Utf8.Fault)
  /-- The text holds a surrogate and so has no encoding. -/
  | notEncodable
deriving DecidableEq

/-- Why a file operation fails. -/
inductive FileFault where
  | missing
  | notDirectory
  | isDirectory
  | alreadyExists
  | tooManyLinks
  | nameTooLong
deriving DecidableEq

/-- Why a configuration cannot be used. -/
inductive ConfigFault where
  | notFound
  | fileNotFound (path : Text)
  | unreadable (name : Text) (cause : FileFault)
  | unparsable (name : Text)
  | notMapping (name : Text)
  | noInclude
  | badFramework (known : List Text)
  | badWorkers
  | badFormat (known : List Text)
  | noTopics
  | incompleteTopic
  | badPattern (topic pattern : Text)
  | noProvider
  | unknownProvider (name : Text)
  | noModel
  | badMaxTokens
  | badConcurrency
  | variableNotSet (name : Text)
  | noApiKey (variable_ : Text)
  | unsupportedProvider (name : Text)
deriving DecidableEq

/-- Why the state or the documents cannot be stored. -/
inductive StoreFault where
  | unwritable (path : Text) (cause : FileFault)
  | docsUnwritable (id : Text) (cause : FileFault)
  | unremovable (path : Text) (cause : FileFault)
deriving DecidableEq

/-- Why a generation service gives no article. -/
inductive GenerationFault where
  | other (reason : Text)
  | status (label : Text) (code : Text) (reason : Text)
  | unreachable (label reason : Text)
  | timedOut (label seconds : Text)
  | invalidJson (label : Text)
  | unexpectedPayload (label : Text)
  | emptyResponse (label : Text)
  | noBaseUrl (label : Text)
  | noApiKey (label : Text)
  | programNotFound (executable : Text)
  | noAnswer (seconds : Text)
  | exitCode (code : Int) (reason : Text)
  | noEvidence (topic : Text)
deriving DecidableEq

/-- Why an operation failed. -/
inductive Failure where
  | config (fault : ConfigFault)
  | store (fault : StoreFault)
  | noDocument (id : Text)
  | noGap (id : Text)
  | generation (fault : GenerationFault)
  | pinned (id : Text)
  | unknownStatus (name : Text)
  | unknownGapStatus (name : Text)
  | emptyQuestion
  | configExists (name : Text)
  | noProject (path : Text)
  | projectNotDirectory (path : Text)
  | undecodableSource (path : Text) (cause : Utf8.Fault)
  | unreadableSource (path : Text) (cause : FileFault)
  | data (fault : DataFault)
  | file (fault : FileFault)
  | badGlob
  | badPattern
deriving DecidableEq

/-- The text of a fault of loose data. -/
def DataFault.message : DataFault → Text
  | .missing name => lit "'" ++ name ++ lit "'"
  | .wrongKind => lit "unsupported kind of value"
  | .unreadable => lit "invalid value"
  | .outOfRange => lit "value out of range"
  | .noPart => lit "no such part"
  | .outOfBounds => lit "position out of range"
  | .notUtf8 fault => fault.message
  | .notEncodable => lit "surrogates not allowed"

/-- The text of a file fault: its number and its name. -/
def FileFault.message : FileFault → Text
  | .missing => lit "[Errno 2] No such file or directory"
  | .notDirectory => lit "[Errno 20] Not a directory"
  | .isDirectory => lit "[Errno 21] Is a directory"
  | .alreadyExists => lit "[Errno 17] File exists"
  | .tooManyLinks => lit "[Errno 40] Too many levels of symbolic links"
  | .nameTooLong => lit "[Errno 36] File name too long"

/-- The text of a configuration fault, without its cause. -/
def ConfigFault.message : ConfigFault → Text
  | .notFound => lit "No kodex configuration found. Run: kodex init"
  | .fileNotFound path => lit "Configuration file not found: " ++ path
  | .unreadable name _ => lit "Failed to read " ++ name
  | .unparsable name => lit "Failed to parse " ++ name
  | .notMapping name => name ++ lit " must contain a mapping at the root"
  | .noInclude => lit "Configuration error: scan.include must list at least one glob"
  | .badFramework known =>
    lit "Configuration error: scan.framework must be one of " ++ Text.joinWith (lit ", ") known
  | .badWorkers => lit "Configuration error: scan.workers must be a positive integer"
  | .badFormat known =>
    lit "Configuration error: docs.format must be one of " ++ Text.joinWith (lit ", ") known
  | .noTopics => lit "Configuration error: docs.topics must list at least one category"
  | .incompleteTopic =>
    lit "Configuration error: custom topics require an id and at least one pattern"
  | .badPattern topic pattern =>
    lit "Configuration error: custom topic '" ++ topic ++ lit "' has an invalid regex " ++ pattern
  | .noProvider => lit "Configuration error: llm.provider is required"
  | .unknownProvider name =>
    lit "Configuration error: unknown LLM provider '" ++ name ++ lit "'"
  | .noModel => lit "Configuration error: llm.model is required"
  | .badMaxTokens => lit "Configuration error: llm.maxTokens must be positive"
  | .badConcurrency => lit "Configuration error: llm.concurrency must be at least 1"
  | .variableNotSet name => lit "Environment variable not set: " ++ name
  | .noApiKey variable_ =>
    lit "No API key found. Set " ++ variable_ ++
      lit " environment variable or configure llm.apiKey"
  | .unsupportedProvider name => lit "Unknown LLM provider: " ++ name

/-- The text of a storage fault, without its cause. -/
def StoreFault.message : StoreFault → Text
  | .unwritable path _ => lit "Failed to write " ++ path
  | .docsUnwritable id _ => lit "Failed to write docs for " ++ id
  | .unremovable path _ => lit "Failed to remove " ++ path

/-- The text of a generation fault. -/
def GenerationFault.message : GenerationFault → Text
  | .other reason => reason
  | .status label code reason =>
    label ++ lit " request failed with status " ++ code ++ lit ": " ++ reason
  | .unreachable label reason => label ++ lit " request failed: " ++ reason
  | .timedOut label seconds => label ++ lit " request timed out after " ++ seconds ++ lit "s"
  | .invalidJson label => label ++ lit " returned invalid JSON"
  | .unexpectedPayload label => label ++ lit " returned an unexpected payload"
  | .emptyResponse label => label ++ lit " returned an empty response"
  | .noBaseUrl label => label ++ lit " backend requires a base_url"
  | .noApiKey label => label ++ lit " backend requires an API key"
  | .programNotFound executable =>
    lit "Unable to locate '" ++ executable ++ lit "'. Install Ollama or choose another provider."
  | .noAnswer seconds => lit "Ollama did not answer within " ++ seconds ++ lit "s"
  | .exitCode code reason =>
    lit "Ollama failed with exit code " ++ Text.ofInt code ++ lit ": " ++ reason
  | .noEvidence topic => lit "No evidence for " ++ topic ++ lit " in the current scan"

namespace Failure

/-- The text that users see, without the cause; failures of loose data, of
files and of patterns have none of their own. -/
def message? : Failure → Option Text
  | .config fault => some fault.message
  | .store fault => some fault.message
  | .noDocument id => some (lit "Document not found: " ++ id)
  | .noGap id => some (lit "Gap not found: " ++ id)
  | .generation fault => some fault.message
  | .pinned id => some (id ++ lit " is pinned; unpin it before regenerating")
  | .unknownStatus name => some (lit "Unknown status '" ++ name ++ lit "'")
  | .unknownGapStatus name => some (lit "Unknown gap status '" ++ name ++ lit "'")
  | .emptyQuestion => some (lit "Question must not be empty")
  | .configExists name => some (name ++ lit " already exists. Use --force to overwrite.")
  | .noProject path => some (lit "Project path not found: " ++ path)
  | .projectNotDirectory path => some (lit "Project path is not a directory: " ++ path)
  | .undecodableSource path _ => some (lit "Failed to decode " ++ path)
  | .unreadableSource path _ => some (lit "Failed to read " ++ path)
  | .data _ | .file _ | .badGlob | .badPattern => none

/-- What lies behind the failure, if that is known. -/
def cause? : Failure → Option Text
  | .config (.unreadable _ cause) => some cause.message
  | .store (.unwritable _ cause) => some cause.message
  | .store (.docsUnwritable _ cause) => some cause.message
  | .store (.unremovable _ cause) => some cause.message
  | .undecodableSource _ cause => some cause.message
  | .unreadableSource _ cause => some cause.message
  | .data fault => some fault.message
  | .file fault => some fault.message
  | _ => none

/-- The full text of the failure: the message and the cause with a colon between them. -/
def text (e : Failure) : Text :=
  Text.joinWith (lit ": ") (e.message?.toList ++ e.cause?.toList)

end Failure

end HelpCenter
