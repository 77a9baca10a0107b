import HelpCenter.Files.Path
import HelpCenter.Text.Case

/-!
# Names in sources

Names of components, and the grammar that a file name asks for.
-/

namespace HelpCenter

/-- The three grammars in which sources are written. -/
inductive Grammar where
  | typescript
  | tsx
  | javascript
deriving DecidableEq

namespace Grammar

/-- The name of a grammar. -/
def name : Grammar → Text
  | .typescript => lit "typescript"
  | .tsx => lit "tsx"
  | .javascript => lit "javascript"

/-- The grammar of a file suffix. -/
def ofSuffix? (suffix : Text) : Option Grammar :=
  if ([".ts", ".mts", ".cts"] : List Text).contains suffix then some .typescript
  else if suffix = lit ".tsx" then some .tsx
  else if ([".js", ".jsx", ".mjs", ".cjs"] : List Text).contains suffix then some .javascript
  else none

/-- The grammar of a file, if it holds a source. -/
def ofPath? (path : Text) : Option Grammar :=
  ofSuffix? (Text.toLower (FilePath.ofText path).suffix)

end Grammar

/-- Whether a name is in Pascal case: an ASCII capital, then ASCII letters and digits. One line
feed at the end is overlooked. -/
def isPascalCase (name : Text) : Bool :=
  match if name.getLast? = some '\n' then name.dropLast else name with
  | c :: rest => CodePoint.between 'A' 'Z' c && rest.all fun d => d.isLetter || d.isDigit
  | [] => false

end HelpCenter
