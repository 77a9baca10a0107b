import HelpCenter.Scan.Route
import HelpCenter.Scan.UiText
import HelpCenter.Topic.Detection

/-!
# Findings of one source

Everything that is looked for in a single file.
-/

namespace HelpCenter

/-- What was found in a file. -/
structure Findings where
  routes : List Route
  components : List Component
  strings : List UiText
  endpoints : List Endpoint
  features : List Feature

/-- Everything that a source shows. -/
def SourceUnit.findings (u : SourceUnit) (framework : Option Text) (c : Catalog) :
    Except Failure Findings := do
  let routes ← u.routes framework
  let components := u.components
  let strings ← u.texts
  let endpoints ← u.endpoints framework
  return { routes, components, strings, endpoints, features := detectFeatures c u.path u.text }

end HelpCenter
