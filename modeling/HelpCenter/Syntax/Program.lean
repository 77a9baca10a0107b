import HelpCenter.Source.Name
import HelpCenter.Syntax.Statement

/-!
# Programs

The rules are tied together by depth, and a program is read statement by statement. What no
statement can be read from is passed over.
-/

namespace HelpCenter.Syntax

/-- The rules with at most `depth` uses of a rule inside another one. Each rule looks up the ones
below it when it is used. -/
def rules : (depth : Nat) → Rules
  | 0 => .nothing
  | depth + 1 => {
      statement := fun s c => (rules depth).readStatement s c
      assignment := fun s c => (rules depth).readAssignment s c
      operand := fun s c => (rules depth).readOperand s c
      pattern := fun s c => (rules depth).readPattern s c
      element := fun s c => (rules depth).readElement s c
      type := fun s c => (rules depth).readType s c }

/-- What a grammar allows. -/
def settingOf (grammar : Grammar) : Setting where
  types := grammar ≠ .javascript
  markup := grammar ≠ .typescript
  allowIn := true
  arrowTypes := true

open Reader in
/-- Passes over something that no statement begins with. -/
def stray : Reader Unit := do
  require !(← atEnd)
  firstOf [do let _ ← word, do gap; modify Cursor.next]

open Reader in
/-- Reads all statements, and tells for each place whether something was passed over. -/
def programParts (r : Rules) : Reader (List (Option Node)) :=
  many (some <$> r.statement <|> (do stray; return none))

open Reader in
/-- The first line of a script may name the program to run it with. -/
def interpreterLine : Reader Unit := do
  exactly (lit "#!")
  let _ ← takeWhile fun c => !isLineEnd c && !c.is '\r'

/-- A source with its tree. -/
structure Program where
  tree : Node
  /-- Whether something could not be read. -/
  hasErrors : Bool

/-- The depth that suffices for a text. -/
def depthFor (t : Text) : Nat := 8 * t.length + 64

/-- The tree of a source. -/
def Program.ofText (grammar : Grammar) (t : Text) : Program :=
  let reader := do
    let _ ← Reader.maybe interpreterLine
    programParts (rules (depthFor t))
  let parts := ((reader (settingOf grammar) (.start t)).map (·.1)).getD []
  { tree := ⟨.program, .plain, t, t.length, 0, parts.filterMap id⟩
    hasErrors := parts.any Option.isNone }

end HelpCenter.Syntax
