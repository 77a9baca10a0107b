import HelpCenter.CodeMap.Basic
import HelpCenter.Json.Printer
import HelpCenter.Text.Case
import HelpCenter.Text.Blank
import HelpCenter.Text.Word

/-!
# Offline writer

A writer that needs no service: it makes a short article of what the prompt says.
-/

namespace HelpCenter.Offline

/-- The topic named where a request for an article begins. -/
def topicHere? (t : Text) : Option Text := do
  let rest ← Text.afterPrefix? (lit "Generate a help article for: \"") t
  let topic := rest.takeWhile fun d => !d.is '"'
  if topic.isEmpty || topic.length = rest.length then none else some topic

/-- The topic named in a prompt: the first text in quotes after the request for an article. -/
def topic? : Text → Option Text
  | [] => none
  | c :: t => (topicHere? (c :: t)).or (topic? t)

/-- The page named by a line of the prompt. -/
def page? (line : Text) : Option Text := do
  let rest ← Text.afterPrefix? (lit "  - ") line
  if rest.head? = some '/' && !rest.any CodePoint.isBlank then some rest else none

/-- The text of the user interface named by a line of the prompt. -/
def uiText? (line : Text) : Option Text := do
  let rest ← Text.afterPrefix? (lit "      - [") line
  let kind := rest.takeWhile CodePoint.isWord
  let value ← Text.afterPrefix? (lit "] \"") (rest.drop kind.length)
  if !kind.isEmpty && 2 ≤ value.length && value.getLast? = some '"' then some value.dropLast
  else none

/-- How many texts of the user interface are listed. -/
def maxTexts : Nat := 5

/-- The part of an article below a heading, if it has any items. -/
def part (heading : String) (items : List Text) : List Text :=
  if items.isEmpty then [] else [[], lit heading, []] ++ items.map fun t => lit "- " ++ t

/-- The lines of an article on a topic with the pages and the texts of the user interface that the
prompt shows. -/
def contentLines (topic : Text) (pages texts : List Text) : List Text :=
  [lit "# " ++ Text.capitalize topic, [],
      lit "This article explains how to use " ++ topic ++ lit "."] ++
    part "## Where to find it" (pages.map fun p => lit "`" ++ p ++ lit "`") ++
    part "## What you will see" texts

/-- The article for a prompt, as the JSON object that prompts ask for. -/
def reply (prompt : Text) : Text :=
  let topic := (topic? prompt).getD (lit "this feature")
  let lines := Text.splitOn '\n' prompt
  let pages := firstSeen (lines.filterMap page?)
  let texts := (lines.filterMap uiText?).take maxTexts
  Json.print (.ofFields [("title", .str (Text.capitalize topic)), ("pages", .ofTexts pages),
    ("content", .str (Text.joinWith (lit "\n") (contentLines topic pages texts)))])

end HelpCenter.Offline
