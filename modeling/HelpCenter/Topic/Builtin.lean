import HelpCenter.Topic.Basic

/-!
# Built-in topics

The topics that every catalog begins with.
-/

namespace HelpCenter.Catalog

/-- The built-in topics: id, confidence in hundredths, and patterns. -/
def builtinEntries : List (String × Nat × List String) := [
  ("authentication.login-logout", 90,
    ["login", "logout", "sign[-_]?in", "sign[-_]?out", "auth"]),
  ("authentication.password-reset", 95,
    ["password[-_]?reset", "forgot[-_]?password", "reset[-_]?password"]),
  ("authentication.signup-registration", 90,
    ["sign[-_]?up", "register", "create[-_]?account", "registration"]),
  ("authentication.two-factor-auth", 95,
    ["2fa", "two[-_]?factor", "mfa", "authenticator", "totp", "otp"]),
  ("authentication.session-management", 70,
    ["session", "active[-_]?devices", "logout[-_]?all"]),
  ("navigation.getting-started", 90,
    ["onboarding", "welcome", "getting[-_]?started", "tutorial"]),
  ("navigation.keyboard-shortcuts", 95,
    ["shortcut", "hotkey", "useHotkeys", "key[-_]?binding"]),
  ("navigation.search", 80,
    ["search", "command[-_]?palette", "quick[-_]?actions"]),
  ("data.import-export", 80,
    ["import", "export", "download", "csv", "excel"]),
  ("data.autosave", 90,
    ["auto[-_]?save", "draft", "unsaved[-_]?changes"]),
  ("data.filtering-sorting", 70,
    ["filter", "sort", "order[-_]?by"]),
  ("settings.profile-management", 85,
    ["profile", "account[-_]?settings", "update[-_]?profile"]),
  ("settings.notifications", 90,
    ["notification", "email[-_]?pref", "push[-_]?notif", "alert[-_]?settings"]),
  ("settings.theme-appearance", 90,
    ["theme", "dark[-_]?mode", "appearance", "light[-_]?mode"]),
  ("settings.language-locale", 85,
    ["language", "locale", "i18n", "internationalization"]),
  ("errors.error-boundary", 90,
    ["error[-_]?boundary", "error[-_]?page", "error[-_]?handler"]),
  ("errors.connection-issues", 90,
    ["offline", "network[-_]?error", "connection[-_]?lost", "reconnect"]),
  ("errors.not-found", 95,
    ["404", "not[-_]?found", "page[-_]?not[-_]?found"]),
  ("billing.subscription", 85,
    ["subscription", "pricing", "plan", "upgrade", "downgrade"]),
  ("billing.payment-methods", 90,
    ["payment", "credit[-_]?card", "billing", "stripe"]),
  ("integrations.api-access", 90,
    ["api[-_]?key", "api[-_]?token", "access[-_]?token"]),
  ("integrations.webhooks", 95,
    ["webhook", "webhook[-_]?config", "webhook[-_]?url"]),
  ("integrations.sso", 95,
    ["sso", "saml", "oidc", "single[-_]?sign[-_]?on"]),
  ("collaboration.inviting-members", 90,
    ["invite", "add[-_]?member", "team[-_]?invite"]),
  ("collaboration.sharing", 85,
    ["share", "share[-_]?link", "public[-_]?link"]),
  ("collaboration.comments", 80,
    ["comment", "mention", "thread"])]

/-- The topic of an entry, if its patterns can be read. -/
def topicOfEntry? : String × Nat × List String → Option Topic
  | (id, hundredths, sources) =>
    match Topic.readPatterns (sources.map Text.ofString) with
    | .ok patterns => some {
        id := lit id
        patterns
        confidence := .double (.ofDecimal false hundredths (-2)) }
    | .error _ => none

/-- The catalog of the built-in topics. -/
def builtin : Catalog := builtinEntries.filterMap topicOfEntry?

end HelpCenter.Catalog
