import HelpCenter.Generation.Backend
import HelpCenter.Scan.Project
import HelpCenter.Store.Articles
import HelpCenter.Topic.Builtin

/-!
# Bringing a knowledge base up to date

A run scans a project, plans the articles, has them written and saves everything. The
configuration is read and the author chosen before any source is read, and a trial run saves
nothing.
-/

namespace HelpCenter

/-- Everything outside a project that a run works with. -/
structure Refresher where
  /-- Who answers prompts in place of the author that the settings choose. -/
  author : Option Author := none
  environment : Environment := []
  /-- How a call to a service is answered. -/
  send : Call → ServiceReply

/-- What a run is asked to do. -/
structure RefreshOptions where
  /-- Leave articles alone whose evidence lies in no new file. -/
  changedOnly : Bool := false
  /-- Save nothing. -/
  trial : Bool := false
  /-- Write articles, besides the scan. -/
  write : Bool := true
  /-- Let the offline writer answer. -/
  offline : Bool := false

/-- What a run gave. -/
structure RefreshOutcome where
  codeMap : CodeMap
  /-- What writing gave, if articles were written. -/
  result : Option BatchResult
  trial : Bool

/-- The author of a run, and whether that is the offline writer. -/
structure ChosenAuthor where
  author : Author
  offline : Bool

namespace Refresher

/-- An entry in the log of runs. -/
def log (message : Text) : Action Unit := Action.log (.of .info "orchestrator" message)

/-- Logs that something has come to its end, whether well or not. -/
def timed {α : Type} (label : Text) (a : Action α) : Action α := do
  let r ← a.attempt
  Action.log (.finished "orchestrator" label)
  Action.ofExcept r

/-- The topics of a project. -/
def catalogOf (s : Settings) : Except Failure Catalog :=
  Catalog.builtin.extend s.docs.customTopics Catalog.customConfidence

/-- The author that settings and options choose. -/
def chooseAuthor (r : Refresher) (s : Settings) (offline : Bool) : Except Failure ChosenAuthor := do
  let offlineWriter : ChosenAuthor := ⟨Backend.offline.author r.send none, true⟩
  if offline then return offlineWriter
  match r.author with
  | some author => return ⟨author, false⟩
  | none =>
    match ← Backend.ofSettings s.model r.environment with
    | .offline => return offlineWriter
    | b => return ⟨b.author r.send (some s.model.maxTokens), false⟩

/-- Scans a project. -/
def scan (s : Settings) (catalog : Catalog) (root : Place) : Action CodeMap :=
  let scanner : Scanner := ⟨catalog, s.scan.workers⟩
  scanner.scan root (Place.path root).toText s.scan

/-- The desk at which an author writes now. -/
def desk (s : Settings) (catalog : Catalog) (a : ChosenAuthor) : Action Desk := do
  return { author := a.author, catalog, product := s.name, now := ← Action.now }

/-- Notes that the prompts for planned articles are sent. -/
def sendPrompts (s : Settings) (a : ChosenAuthor) (d : Desk) (plan : List PlannedTopic) :
    Action Unit :=
  Action.send (plan.map fun p => ⟨a.offline, d.prompt p, s.model.maxTokens⟩)

/-- Plans articles and has them written. -/
def write (s : Settings) (catalog : Catalog) (a : ChosenAuthor) (m : CodeMap)
    (articles : List Article) (o : RefreshOptions) : Action BatchResult := do
  let d ← desk s catalog a
  match d.generate m s.docs.topics articles o.changedOnly o.trial with
  | .error fault => throw (.data fault)
  | .ok r =>
    if !o.trial then sendPrompts s a d (r.plan.filter (·.needsWriting))
    Action.logAll r.log
    return r

/-- The entry that sums up what was written. -/
def summary (r : BatchResult) : Text :=
  lit "Generated " ++ Text.ofNat r.generated ++ lit ", updated " ++ Text.ofNat r.updated ++
    lit ", skipped " ++ Text.ofNat r.skipped ++ lit " (~" ++ Text.ofNat r.tokens ++ lit " tokens)"

/-- The knowledge base after a scan. -/
def scanned (k : KnowledgeBase) (m : CodeMap) (now : Moment) : KnowledgeBase :=
  { k with codeMap := some m, info := { k.info with lastScanAt := .str now.toText } }

/-- The knowledge base after articles were written. -/
def written (k : KnowledgeBase) (articles : List Article) (now : Moment) : KnowledgeBase :=
  { k with articles, info := { k.info with lastGenerateAt := .str now.toText } }

/-- Brings the knowledge base of a project up to date. -/
def run (r : Refresher) (target : Place) (o : RefreshOptions) : Action RefreshOutcome := do
  let files ← Action.files
  let root := files.resolve target
  log (lit "Starting scan for " ++ (Place.path root).toText)
  let settings ← Action.ofExcept (Settings.load files root)
  let catalog ← Action.ofExcept (catalogOf settings)
  let author ←
    if o.write then some <$> Action.ofExcept (r.chooseAuthor settings (o.offline || o.trial))
    else pure none
  let store := Store.ofSettings settings
  let k ← store.load
  let m ← timed "Scan" (scan settings catalog root)
  let k := scanned k m (← Action.now)
  match author with
  | none =>
    if !o.trial then store.save k
    log "Scan complete (generation skipped)"
    return ⟨m, none, o.trial⟩
  | some a =>
    let result ← timed "Generation" (write settings catalog a m k.articles o)
    log (summary result)
    if o.trial then
      log "Dry run: no files written"
    else
      store.save (written k result.articles (← Action.now))
      log (lit "Knowledge base saved to " ++ store.docsDir.toText)
    return ⟨m, some result, o.trial⟩

end Refresher

end HelpCenter
