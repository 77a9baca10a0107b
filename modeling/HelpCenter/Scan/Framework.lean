import HelpCenter.Files.Tree

/-!
# Frameworks

When the settings leave the framework open, it is told from the project's layout and from the
modules that its files import.
-/

namespace HelpCenter.Framework

/-- The directories whose files are routes. -/
def routeDirectories : List Text := ["app", "pages"]

/-- Whether the project has the layout of file routes: a configuration file of that framework at
its top, or source files below a directory for routes. -/
def hasRouteLayout (files : FileTree) (root : Place) (sources : List Text) : Bool :=
  (files.children root).any (fun (name, _) => Text.startsWith name (lit "next.config.")) ||
    sources.any fun path => (Text.splitOn '/' path).dropLast.any routeDirectories.contains

/-- The framework that imported modules suggest: a router for components before a server. -/
def ofImports (modules : List Text) : Option Text :=
  if modules.any (Text.hasInfix (lit "react-router")) then some (lit "react")
  else if modules.contains (lit "express") then some (lit "express")
  else none

end HelpCenter.Framework
