import Scaffold.Blueprint.Basic
import Scaffold.Pattern.Reader
import Scaffold.Snippet
import Scaffold.Text.Search

namespace Scaffold
namespace Snippets

/-!
# Where snippets go

Files that people maintain by hand carry marker comments.  A snippet goes right before the marker of
its kind; a snippet without a marker is a whole new file.
-/

/-- The marker comment of an insertion point. -/
def marker (kind : String) : String :=
  "// <<<FORGE:INSERT " ++ kind ++ ">>>"

/-- A pattern that matches the marker comment. -/
def markerPattern (kind : String) : String :=
  Pattern.escape (marker kind)

/-- What is known of a snippet before its text: where it goes, and how it is described. -/
structure Placement where
  category : String
  targetFile : String
  /-- The kind of marker it goes before; none for a new file. -/
  marker? : Option String
  insertionPoint : String
  description : String
  priority : Nat

namespace Placement

/-- The snippet with the given text in this place. -/
def toSnippet (placement : Placement) (names : Names) (content : String) : Snippet where
  id := placement.category ++ "_" ++ names.snake
  content
  targetFile := placement.targetFile
  insertionPoint := placement.insertionPoint
  insertBefore := placement.marker?.map markerPattern
  insertAfter := none
  description := placement.description
  priority := placement.priority
  category := placement.category

end Placement

export Text (block paragraph)

end Snippets
end Scaffold
