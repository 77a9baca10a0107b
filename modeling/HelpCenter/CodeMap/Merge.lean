import HelpCenter.CodeMap.Basic
import HelpCenter.Topic.Detection

/-!
# Findings of several files

The findings of the files of a project are put together: evidence of one topic from several files
makes one feature, and routes are joined with what shows them.
-/

namespace HelpCenter

/-- Joins a feature to the one of the same id, or adds it at the end. -/
def Feature.joinTo (f : Feature) : List Feature → List Feature
  | [] => [f]
  | g :: rest =>
    if g.id = f.id then
      { g with evidence := g.evidence ++ f.evidence, confidence := g.confidence.max f.confidence }
        :: rest
    else g :: joinTo f rest

/-- One feature for each id, in order of appearance: all its evidence and its highest
confidence. -/
def mergeFeatures (features : List Feature) : List Feature :=
  features.foldl (fun merged f => f.joinTo merged) []

/-- Whether a component shows a route: it is defined in the route's file or has the name that the
route gives. -/
def Component.shows (c : Component) (r : Route) : Bool :=
  c.sourceFile = r.sourceFile || r.component.str? = some c.name

/-- The page of a route: the components that show it, their files, and the texts of those
files. -/
def pageOf (components : List Component) (strings : List UiText) (r : Route) : Page :=
  let shown := components.filter (·.shows r)
  let files := firstSeen (r.sourceFile :: shown.map (·.sourceFile))
  { path := r.path
    components := (firstSeen (shown.map (·.name))).map .str
    sourceFiles := files.map .str
    strings := strings.filter fun s => files.contains s.sourceFile }

/-- The pages of all routes. -/
def buildPages (routes : List Route) (components : List Component) (strings : List UiText) :
    List Page :=
  routes.map (pageOf components strings)

end HelpCenter
