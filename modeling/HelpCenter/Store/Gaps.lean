import HelpCenter.Store.Basic
import HelpCenter.Text.Case

/-!
# Questions in the store

A question that is asked again, whatever the case of its letters, is counted instead of recorded
twice.
-/

namespace HelpCenter

namespace Gap

/-- Whether a question is the given one, whatever the case of its letters. -/
def asks (question : Text) (g : Gap) : Bool :=
  Text.toLower g.question = Text.toLower question

/-- The `n`th choice for the id of a question: that of the moment, then with a number from two
on. -/
def idChoice (now : Moment) (n : Nat) : Text :=
  let base := lit "gap-" ++ Text.ofInt now.millis
  if n = 0 then base else base ++ lit "-" ++ Text.ofNat (n + 1)

/-- The first choice for the id of a question that is not taken. -/
def newId (now : Moment) (taken : List Text) : Text :=
  let choices := (List.range (taken.length + 1)).map (idChoice now)
  (choices.find? fun id => !taken.contains id).getD (idChoice now 0)

/-- The questions with the first one that satisfies `p` changed, and that one. -/
def changeFirst (p : Gap → Bool) (change : Gap → Gap) : List Gap → Option (Gap × List Gap)
  | [] => none
  | g :: rest =>
    if p g then some (change g, change g :: rest)
    else (changeFirst p change rest).map fun (h, gs) => (h, g :: gs)

/-- The question, settled by someone in some way. -/
def resolved (g : Gap) (by_ resolution : Json) : Gap :=
  { g with status := lit "resolved", resolvedBy := by_, resolution }

end Gap

namespace Store

/-- Records a question that was asked on a page. -/
def addGap (s : Store) (question : Text) (page : Json) : Action Gap := do
  let question := Text.trim question
  if question.isEmpty then throw .emptyQuestion
  let k ← s.load
  match Gap.changeFirst (Gap.asks question) (fun g => { g with frequency := g.frequency + 1 })
      k.gaps with
  | some (g, gaps) =>
    s.save { k with gaps }
    return g
  | none =>
    let now ← Action.now
    let g : Gap := {
      id := Gap.newId now (k.gaps.map (·.id)), question, askedAt := now.toText, page }
    s.save { k with gaps := k.gaps ++ [g] }
    return g

/-- Settles the first question of an id. -/
def resolveGap (s : Store) (id : Text) (by_ resolution : Json) : Action Gap := do
  let k ← s.load
  match Gap.changeFirst (fun g => g.id = id) (fun g => g.resolved by_ resolution) k.gaps with
  | some (g, gaps) =>
    s.save { k with gaps }
    return g
  | none => throw (.noGap id)

/-- The questions, maybe only those in a state, the most frequent first. -/
def listGaps (s : Store) (status : Option Text) : Action (List Gap) := do
  match status with
  | some name => if !Gap.statuses.contains name then throw (.unknownGapStatus name)
  | none => pure ()
  let gaps := (← s.load).gaps.filter fun g => status.all (g.status = ·)
  return gaps.mergeSort fun g h => h.frequency ≤ g.frequency

end Store

end HelpCenter
