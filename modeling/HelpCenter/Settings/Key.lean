import HelpCenter.Settings.Basic
import HelpCenter.Text.Blank
import HelpCenter.Text.Utf8

/-!
# Keys of generation services

A configured key is used as it is, or names a variable of the environment when it is written as
`${NAME}`. Without one, each service that needs a key has a variable of its own.
-/

namespace HelpCenter

/-- The variables of the environment. -/
abbrev Environment := List (Text × Text)

namespace Environment

/-- The bytes of a code point in the environment. A byte that is no part of a character is seen as
a surrogate from U+DC80 on, and other surrogates have none. -/
def bytes? (c : CodePoint) : Option Bytes :=
  if 0xDC80 ≤ c.toNat && c.toNat ≤ 0xDCFF then some [(c.toNat - 0xDC00).toUInt8]
  else if c.isSurrogate then none
  else some c.utf8

/-- The bytes of a name in the environment. -/
def nameBytes? (name : Text) : Option Bytes := (name.mapM bytes?).map List.flatten

/-- The value of a variable; an empty one counts as unset. -/
def value? (env : Environment) (name : Text) : Except Failure (Option Text) :=
  match nameBytes? name with
  | none => .error (.data .notEncodable)
  | some bytes =>
    .ok (((env.find? fun v => nameBytes? v.1 = some bytes).map (·.2)).filter fun v => !v.isEmpty)

end Environment

/-- The variable that holds a service's key, for services that need one. -/
def keyVariable? (provider : Text) : Option Text :=
  [(lit "anthropic", lit "ANTHROPIC_API_KEY"), (lit "openai", lit "OPENAI_API_KEY"),
    (lit "google", lit "GOOGLE_API_KEY")].lookup provider

/-- The variable that a configured key refers to. -/
def referredVariable? (key : Text) : Option Text :=
  match Text.afterPrefix? (lit "$\x7b") key with
  | some rest => if Text.endsWith key (lit "\x7d") then some rest.dropLast else none
  | none => none

namespace ModelSettings

/-- The key that was configured, taken from the environment where it refers to a variable. -/
def configuredKey (env : Environment) (key : Text) : Except Failure Text :=
  let key := Text.trim key
  match referredVariable? key with
  | none => .ok key
  | some name => do
    match ← env.value? name with
    | some value => return value
    | none => throw (.config (.variableNotSet name))

/-- The key for the service, if one is configured or needed. A service that speaks the protocol of
`openai` at an address of its own needs none. -/
def key (s : ModelSettings) (env : Environment) : Except Failure (Option Text) :=
  match s.apiKey.filter fun k => !k.isEmpty with
  | some configured => (configuredKey env configured).map some
  | none =>
    match keyVariable? s.provider with
    | none => .ok none
    | some name => do
      match ← env.value? name with
      | some value => return some value
      | none =>
        if s.provider = lit "openai" && !(s.baseUrl.getD []).isEmpty then return none
        else throw (.config (.noApiKey name))

end ModelSettings

end HelpCenter
