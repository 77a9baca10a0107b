import HelpCenter.Refresh.Basic

/-!
# Writing a single article again

One article is written again from a fresh scan. A pinned article is refused, and unless the new
article could be written nothing is saved.
-/

namespace HelpCenter.Refresher

/-- The article of an id, which must not be pinned. -/
def unpinnedArticle (k : KnowledgeBase) (id : Text) : Except Failure Article :=
  match k.article? id with
  | none => .error (.noDocument id)
  | some a => if a.pinned || a.status = lit "pinned" then .error (.pinned id) else .ok a

/-- The plan to write an article again; there has to be evidence for its topic. -/
def planAgain (m : CodeMap) (a : Article) : Except Failure PlannedTopic :=
  match m.feature? a.topic with
  | none => .error (.generation (.noEvidence a.topic))
  | some f =>
    match f.context m with
    | .ok context => .ok ⟨f, .update a context⟩
    | .error fault => .error (.data fault)

/-- Writes a planned article. -/
def writeOne (s : Settings) (catalog : Catalog) (a : ChosenAuthor) (m : CodeMap)
    (p : PlannedTopic) : Action Article := do
  let d ← desk s catalog a
  sendPrompts s a d [p]
  return p.article (← Action.ofExcept (d.draft p)) m d.now

/-- Writes the article of an id again. -/
def rewriteArticle (r : Refresher) (target : Place) (id : Text) (offline : Bool) :
    Action Article := do
  let files ← Action.files
  let root := files.resolve target
  let settings ← Action.ofExcept (Settings.load files root)
  let catalog ← Action.ofExcept (catalogOf settings)
  let store := Store.ofSettings settings
  let k ← store.load
  let old ← Action.ofExcept (unpinnedArticle k id)
  let author ← Action.ofExcept (r.chooseAuthor settings offline)
  let m ← scan settings catalog root
  let p ← Action.ofExcept (planAgain m old)
  let a ← writeOne settings catalog author m p
  let now ← Action.now
  let articles := k.articles.map fun b => if b.id = id then a else b
  store.save (written (scanned k m now) articles now)
  log (lit "Regenerated " ++ id ++ lit " (" ++ old.topic ++ lit ")")
  return a

end HelpCenter.Refresher
