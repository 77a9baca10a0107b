import HelpCenter.Files.Tree
import HelpCenter.Number.Basic

/-!
# Settings of a project

What to scan, which topics to document and where, which model writes, and where the dashboard
listens. Every field has the value that holds when the configuration is silent.
-/

namespace HelpCenter

/-- Which files to scan and how to understand them. -/
structure ScanSettings where
  includes : List Text := ["src/**/*.{ts,tsx,js,jsx}"]
  excludes : List Text := ["**/*.test.*", "**/*.spec.*", "**/node_modules/**"]
  framework : Text := "auto"
  workers : Option Int := none

/-- A topic that a project adds to the catalog. -/
structure CustomTopic where
  id : Text
  name : Text := []
  patterns : List Text := []
  prompt : Option Text := none

/-- Where documents go and which categories of topics they cover. -/
structure DocsSettings where
  outputDir : Text := ".kodex/docs"
  format : Text := "both"
  topics : List Text := ["authentication", "navigation", "data", "settings", "errors"]
  customTopics : List CustomTopic := []

/-- Which service writes the articles. -/
structure ModelSettings where
  provider : Text := "anthropic"
  model : Option Text := some (lit "claude-3-5-haiku-20241022")
  apiKey : Option Text := none
  maxTokens : Int := 1000
  temperature : Option Number := none
  baseUrl : Option Text := none
  requestTimeout : Number := .double (.ofInt 60)
  concurrency : Int := 4
  executable : Option Text := none

/-- Where the dashboard listens. -/
structure DashboardSettings where
  host : Text := "127.0.0.1"
  port : Int := 3333

/-- All settings of a project. -/
structure Settings where
  /-- The project's directory. -/
  root : Place
  name : Text := "My Product"
  version : Text := "1.0.0"
  scan : ScanSettings := {}
  docs : DocsSettings := {}
  model : ModelSettings := {}
  dashboard : DashboardSettings := {}
  /-- The file that the settings were read from. -/
  source : Place := []

namespace Settings

/-- The frameworks that a configuration may name. -/
def frameworks : List Text := ["react", "nextjs", "express", "auto"]

/-- The formats of documents. -/
def formats : List Text := ["markdown", "json", "both"]

/-- The services that can write articles. -/
def providers : List Text := ["anthropic", "openai", "google", "ollama", "mock"]

/-- The names that a configuration file can have, the preferred one first. -/
def fileNames : List Text := [
  "kodex.config.yaml", "kodex.config.yml", "kodex.config.json", ".kodexrc", ".kodexrc.yaml",
  ".kodexrc.yml", ".kodexrc.json"]

end Settings

/-- The inside of a pattern written between slashes; other patterns are plain texts. -/
def patternBody? (pattern : Text) : Option Text :=
  if 2 < pattern.length && Text.startsWith pattern (lit "/") && Text.endsWith pattern (lit "/") then
    some (pattern.drop 1).dropLast
  else none

end HelpCenter
