import HelpCenter.Article.Basic
import HelpCenter.Files.Path
import HelpCenter.Json.Printer
import HelpCenter.Text.Blank
import HelpCenter.Yaml.Printer

/-!
# Articles as Markdown

An article's document begins with a header of its data between two lines of hyphens. It is named
after the article's topic.
-/

namespace HelpCenter.Article

/-- The data in the header. -/
def header (a : Article) : List (Text × Json) := [
    (lit "id", .str a.id), (lit "topic", .str a.topic), (lit "title", a.title),
    (lit "pages", .arr a.pages), (lit "generated", .str a.generatedAt),
    (lit "status", .str a.status), (lit "confidence", a.confidence.toJson)] ++
  (if a.humanEdited then [(lit "humanEdited", .bool true)] else []) ++
  (if a.pinned then [(lit "pinned", .bool true)] else [])

/-- The document; every integer in the header must have few enough digits to be printed, and the
content must be a text. -/
def markdown (a : Article) : Except DataFault Text :=
  if (Json.obj a.header).isPrintable then
    match a.content with
    | .str content =>
      .ok (lit "---\n" ++ Yaml.printMapping a.header ++ lit "---\n\n" ++ Text.trimRight content ++
        lit "\n")
    | _ => .error .noPart
  else .error .unreadable

/-- The path of the document in a directory: the topic up to its first dot is a directory, the
rest the name. -/
def markdownPath (a : Article) (docs : FilePath) : FilePath :=
  let (category, name) := Text.cutAtFirst '.' a.topic
  let file := (if name.isEmpty then category else name) ++ lit ".md"
  (docs.join (FilePath.ofText category)).join (FilePath.ofText file)

end HelpCenter.Article
