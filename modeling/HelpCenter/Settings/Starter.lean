import HelpCenter.Settings.Basic

/-!
# Starter configuration

The commented configuration file that a new project begins with.
-/

namespace HelpCenter.Settings

/-- A configuration line of a list, the value in double quotes. -/
def quotedItem (value : Text) : Text := lit "    - \"" ++ value ++ lit "\"\n"

/-- The text of the starter configuration for a product. -/
def starterText (product : Text) : Text :=
  let scan : ScanSettings := {}
  let docs : DocsSettings := {}
  let model : ModelSettings := {}
  lit "# Kodex configuration\n\nname: \"" ++ product ++
    lit "\"\nversion: \"1.0.0\"\n\n# What to scan\nscan:\n  include:\n" ++
    scan.includes.flatMap quotedItem ++ lit "  exclude:\n" ++
    (scan.excludes ++ [lit "**/__tests__/**", lit "**/__mocks__/**"]).flatMap quotedItem ++
    lit "  # Framework hint (react | nextjs | express | auto)\n  framework: auto\n\n" ++
    lit "# Documentation settings\ndocs:\n  outputDir: \"" ++ docs.outputDir ++
    lit "\"\n  format: " ++ docs.format ++ lit "\n  topics:\n" ++
    docs.topics.flatMap (fun topic => lit "    - " ++ topic ++ lit "\n") ++
    lit "\n# LLM settings\nllm:\n  provider: " ++ model.provider ++
    lit "\n  model: " ++ model.model.getD [] ++
    lit "\n  # apiKey: $\x7bANTHROPIC_API_KEY\x7d  # uses the provider env var by default\n" ++
    lit "\n# Dashboard API (kodex serve)\ndashboard:\n  port: 3333\n"

/-- Writes the starter configuration into a directory and gives its place. The product takes the
directory's name unless it is given one. What is there already is replaced only on demand. -/
def writeStarter (files : FileTree) (root : Place) (product : Option Text) (overwrite : Bool) :
    Except Failure (FileTree × Place) := do
  let file := root ++ fileNames.take 1
  if files.exists_ file && !overwrite then
    throw (.configExists (file.getLast?.getD []))
  let name := (product.filter fun n => !n.isEmpty).getD (root.getLast?.getD [])
  let name := if name.isEmpty then ({ root } : Settings).name else name
  match Text.toUtf8? (starterText name) with
  | none => throw (.data .notEncodable)
  | some bytes =>
    match files.write file bytes with
    | .ok files => return (files, file)
    | .error fault => throw (.file fault)

end HelpCenter.Settings
