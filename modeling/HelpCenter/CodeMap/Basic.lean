import HelpCenter.Number.Basic
import HelpCenter.Text.Search

/-!
# Code maps

What a scan finds in a source tree: routes, components, user interface texts, endpoints and the
features that the code gives evidence of. Members that nothing depends on keep whatever value they
were read with.
-/

namespace HelpCenter

/-- An address that the application answers to. -/
structure Route where
  path : Text
  sourceFile : Text
  component : Json := .null
  line : Json := .null
  params : List Json := []

/-- A component of the user interface. -/
structure Component where
  name : Text
  sourceFile : Text
  line : Int
  exported : Bool
  propsType : Json := .null
  children : List Json := []

/-- A text that users see. -/
structure UiText where
  value : Text
  sourceFile : Text
  line : Int
  kind : Text := lit "other"
  component : Json := .null

/-- A place in the code that speaks for a feature. -/
structure Evidence where
  pattern : Text
  sourceFile : Text
  line : Int

/-- A topic of the product that the code gives evidence of. -/
structure Feature where
  id : Text
  confidence : Number
  evidence : List Evidence := []

/-- A route with the components and texts that show it. -/
structure Page where
  path : Text
  components : List Json := []
  sourceFiles : List Json := []
  strings : List UiText := []
  features : List Json := []

/-- A request that the application handles. -/
structure Endpoint where
  method : Text
  path : Text
  sourceFile : Text
  handler : Json := .null

/-- The circumstances of a scan. -/
structure ScanInfo where
  scannedAt : Text := []
  filesScanned : Int := 0
  durationMs : Int := 0
  framework : Json := .null
  filesFailed : Int := 0

/-- Everything that a scan finds. -/
structure CodeMap where
  routes : List Route := []
  components : List Component := []
  pages : List Page := []
  strings : List UiText := []
  endpoints : List Endpoint := []
  features : List Feature := []
  info : ScanInfo := {}

/-- The category of a topic: its id up to the first dot. -/
def topicCategory (id : Text) : Text := (Text.cutAtFirst '.' id).1

/-- The items without repetitions, each at its first place. -/
def firstSeen [DecidableEq α] : List α → List α
  | [] => []
  | x :: xs => x :: (firstSeen xs).filter (· ≠ x)

namespace Feature

/-- The category of the feature's topic. -/
def category (f : Feature) : Text := topicCategory f.id

/-- The files with evidence, each once, in order of appearance. -/
def sourceFiles (f : Feature) : List Text := firstSeen (f.evidence.map (·.sourceFile))

end Feature

/-- The first feature of an id. -/
def CodeMap.feature? (m : CodeMap) (id : Text) : Option Feature :=
  m.features.find? fun f => f.id = id

end HelpCenter
