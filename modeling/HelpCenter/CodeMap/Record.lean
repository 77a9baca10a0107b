import HelpCenter.CodeMap.Basic
import HelpCenter.Json.Loose

/-!
# Code maps as JSON

Each kind of record is written as an object with all its members and read back from any object
that has the required ones.
-/

namespace HelpCenter

namespace Route

/-- The route as JSON. -/
def toJson (r : Route) : Json := .ofFields [
  ("path", .str r.path), ("source_file", .str r.sourceFile), ("component", r.component),
  ("line", r.line), ("params", .arr r.params)]

/-- Reads a route. -/
def ofJson (j : Json) : Except DataFault Route := do
  return { path := ← j.text "path"
           sourceFile := ← j.text "source_file"
           component := ← j.optional "component"
           line := ← j.optional "line"
           params := ← j.list "params" }

end Route

namespace Component

/-- The component as JSON. -/
def toJson (c : Component) : Json := .ofFields [
  ("name", .str c.name), ("source_file", .str c.sourceFile), ("line", .int c.line),
  ("exported", .bool c.exported), ("props_type", c.propsType), ("children", .arr c.children)]

/-- Reads a component. -/
def ofJson (j : Json) : Except DataFault Component := do
  return { name := ← j.text "name"
           sourceFile := ← j.text "source_file"
           line := ← j.integerOr "line" 0
           exported := ← j.flag "exported"
           propsType := ← j.optional "props_type"
           children := ← j.list "children" }

end Component

namespace UiText

/-- The text as JSON. -/
def toJson (s : UiText) : Json := .ofFields [
  ("value", .str s.value), ("source_file", .str s.sourceFile), ("line", .int s.line),
  ("type", .str s.kind), ("component", s.component)]

/-- Reads a text. -/
def ofJson (j : Json) : Except DataFault UiText := do
  return { value := ← j.text "value"
           sourceFile := ← j.text "source_file"
           line := ← j.integerOr "line" 0
           kind := ← j.textOr "type" (lit "other")
           component := ← j.optional "component" }

end UiText

namespace Evidence

/-- The evidence as JSON. -/
def toJson (e : Evidence) : Json := .ofFields [
  ("pattern", .str e.pattern), ("source_file", .str e.sourceFile), ("line", .int e.line)]

/-- Reads evidence. -/
def ofJson (j : Json) : Except DataFault Evidence := do
  return { pattern := ← j.text "pattern"
           sourceFile := ← j.text "source_file"
           line := ← j.integerOr "line" 1 }

end Evidence

namespace Feature

/-- The feature as JSON. -/
def toJson (f : Feature) : Json := .ofFields [
  ("id", .str f.id), ("confidence", f.confidence.toJson),
  ("evidence", .arr (f.evidence.map Evidence.toJson))]

/-- Reads a feature. -/
def ofJson (j : Json) : Except DataFault Feature := do
  return { id := ← j.text "id"
           confidence := .double (← j.doubleOrZero "confidence")
           evidence := ← j.listOf "evidence" Evidence.ofJson }

end Feature

namespace Page

/-- The page as JSON. -/
def toJson (p : Page) : Json := .ofFields [
  ("path", .str p.path), ("components", .arr p.components), ("source_files", .arr p.sourceFiles),
  ("strings", .arr (p.strings.map UiText.toJson)), ("features", .arr p.features)]

/-- Reads a page. -/
def ofJson (j : Json) : Except DataFault Page := do
  return { path := ← j.text "path"
           components := ← j.list "components"
           sourceFiles := ← j.list "source_files"
           strings := ← j.listOf "strings" UiText.ofJson
           features := ← j.list "features" }

end Page

namespace Endpoint

/-- The endpoint as JSON. -/
def toJson (e : Endpoint) : Json := .ofFields [
  ("method", .str e.method), ("path", .str e.path), ("source_file", .str e.sourceFile),
  ("handler", e.handler)]

/-- Reads an endpoint. -/
def ofJson (j : Json) : Except DataFault Endpoint := do
  return { method := ← j.text "method"
           path := ← j.text "path"
           sourceFile := ← j.text "source_file"
           handler := ← j.optional "handler" }

end Endpoint

namespace ScanInfo

/-- The circumstances as JSON. -/
def toJson (i : ScanInfo) : Json := .ofFields [
  ("scanned_at", .str i.scannedAt), ("files_scanned", .int i.filesScanned),
  ("scan_duration_ms", .int i.durationMs), ("framework", i.framework),
  ("files_failed", .int i.filesFailed)]

/-- Reads the circumstances. -/
def ofJson (j : Json) : Except DataFault ScanInfo := do
  return { scannedAt := ← j.textOr "scanned_at" []
           filesScanned := ← j.integerOr "files_scanned" 0
           durationMs := ← j.integerOr "scan_duration_ms" 0
           framework := ← j.optional "framework"
           filesFailed := ← j.integerOr "files_failed" 0 }

end ScanInfo

namespace CodeMap

/-- The code map as JSON. -/
def toJson (m : CodeMap) : Json := .ofFields [
  ("routes", .arr (m.routes.map Route.toJson)),
  ("components", .arr (m.components.map Component.toJson)),
  ("pages", .arr (m.pages.map Page.toJson)),
  ("strings", .arr (m.strings.map UiText.toJson)),
  ("api_endpoints", .arr (m.endpoints.map Endpoint.toJson)),
  ("features", .arr (m.features.map Feature.toJson)),
  ("meta", m.info.toJson)]

/-- Reads a code map. -/
def ofJson (j : Json) : Except DataFault CodeMap := do
  let routes ← j.listOf "routes" Route.ofJson
  let components ← j.listOf "components" Component.ofJson
  let pages ← j.listOf "pages" Page.ofJson
  let strings ← j.listOf "strings" UiText.ofJson
  let endpoints ← j.listOf "api_endpoints" Endpoint.ofJson
  let features ← j.listOf "features" Feature.ofJson
  let info ← j.optional "meta"
  let info ← ScanInfo.ofJson (if info.isNothing then .obj [] else info)
  return { routes, components, pages, strings, endpoints, features, info }

end CodeMap

end HelpCenter
