import HelpCenter.Generation.Prompt
import HelpCenter.Generation.Reply
import HelpCenter.Log.Basic

/-!
# Writing the planned articles

The articles of a plan are written one by one. A failure concerns its own topic only: it is
logged and counted, and the others are written all the same.
-/

namespace HelpCenter

/-- Who answers prompts. -/
abbrev Author := Text → Except Failure Text

/-- What writing a plan's articles gave. -/
structure BatchResult where
  articles : List Article
  generated : Nat := 0
  updated : Nat := 0
  skipped : Nat := 0
  tokens : Nat := 0
  failures : List Text := []
  plan : List PlannedTopic := []
  log : List LogEntry := []

/-- Everything that articles are written with. -/
structure Desk where
  author : Author
  catalog : Catalog
  product : Text
  now : Moment

namespace Desk

/-- The prompt for a planned article. -/
def prompt (d : Desk) (p : PlannedTopic) : Text :=
  d.catalog.prompt d.product p.feature.id (p.decision.context?.getD [])

/-- The draft of a planned article. -/
def draft (d : Desk) (p : PlannedTopic) : Except Failure Draft := do
  let reply ← d.author (d.prompt p)
  match Reply.draft reply (d.catalog.displayName p.feature.id) with
  | .ok draft => return draft
  | .error fault => throw (.data fault)

end Desk

namespace BatchResult

/-- Replaces the first article of an id, if there is one. -/
def replace? (id : Text) (a : Article) : List Article → Option (List Article)
  | [] => none
  | b :: rest => if b.id = id then some (a :: rest) else (b :: ·) <$> replace? id a rest

/-- The result with a written article: in the place of the one it replaces, or at the end. -/
def put (r : BatchResult) (p : PlannedTopic) (a : Article) : BatchResult :=
  match p.decision.existing?.bind fun old => replace? old.id a r.articles with
  | some articles => { r with articles, updated := r.updated + 1 }
  | none => { r with articles := r.articles ++ [a], generated := r.generated + 1 }

/-- The log entry about a topic whose article could not be written. -/
def failureEntry (topic : Text) (e : Failure) : LogEntry :=
  match e with
  | .generation fault =>
    .of .warning "generator" (
      lit "Failed to generate doc for " ++ topic ++ lit ": " ++ fault.message)
  | _ => .of .warning "generator" (lit "Unexpected error generating doc for " ++ topic)

/-- The result with one more planned article written. -/
def step (d : Desk) (m : CodeMap) (r : BatchResult) (p : PlannedTopic) : BatchResult :=
  let topic := p.feature.id
  match d.draft p with
  | .ok draft =>
    let r := r.put p (p.article draft m d.now)
    let context := p.decision.context?.getD []
    { r with
      tokens := r.tokens + Reply.estimateTokens context draft.content
      log := r.log ++ [.of .debug "generator" (
        lit "Generated " ++ topic ++ lit " (" ++ p.decision.name ++ lit ")")] }
  | .error e =>
    { r with
      skipped := r.skipped + 1
      failures := r.failures ++ [topic]
      log := r.log ++ [failureEntry topic e] }

end BatchResult

/-- Writes the articles that a plan asks for; a trial run only counts them. -/
def Desk.write (d : Desk) (m : CodeMap) (plan : List PlannedTopic) (articles : List Article)
    (trial : Bool) : BatchResult :=
  let pending := plan.filter (·.needsWriting)
  let start : BatchResult := { articles, plan, skipped := plan.length - pending.length }
  if trial then
    { start with
      generated := (pending.filter (·.decision.existing?.isNone)).length
      updated := (pending.filter (·.decision.existing?.isSome)).length }
  else pending.foldl (BatchResult.step d m) start

/-- Plans the articles for a code map and writes them. -/
def Desk.generate (d : Desk) (m : CodeMap) (categories : List Text) (articles : List Article)
    (changedOnly trial : Bool) : Except DataFault BatchResult := do
  let plan ← planArticles m categories articles changedOnly
  return d.write m plan articles trial

end HelpCenter
