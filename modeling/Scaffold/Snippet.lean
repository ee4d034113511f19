import Scaffold.Json.Decode

namespace Scaffold

/-!
# Snippets

A snippet is a piece of text for a file that people maintain by hand, with the place where it
belongs.
-/

/-- A piece of text and its place in a target file. -/
structure Snippet where
  id : String
  content : String
  targetFile : String
  insertionPoint : String
  insertBefore : Option String := none
  insertAfter : Option String := none
  description : String
  priority : Nat
  category : String
  deriving DecidableEq, Repr, Inhabited

namespace Snippet

open Json

/-- The columns of a snippet. -/
def layout : Layout where
  title := "CodeSnippet"
  columns := [
    .required "id" [] Decode.string,
    .required "content" [] Decode.string,
    .required "targetFile" [] Decode.string,
    .required "insertionPoint" [] Decode.string,
    .defaulted "insertBefore" [] (Decode.optional Decode.string),
    .defaulted "insertAfter" [] (Decode.optional Decode.string),
    .required "description" [] Decode.string,
    .required "priority" [] Decode.word,
    .required "category" [] Decode.string]

def decode : Decoder Snippet := fun reading => do
  let row ← layout.row reading
  return {
    id := ← row.get "id" Decode.string ""
    content := ← row.get "content" Decode.string ""
    targetFile := ← row.get "targetFile" Decode.string ""
    insertionPoint := ← row.get "insertionPoint" Decode.string ""
    insertBefore := ← row.get "insertBefore" (Decode.optional Decode.string) none
    insertAfter := ← row.get "insertAfter" (Decode.optional Decode.string) none
    description := ← row.get "description" Decode.string ""
    priority := ← row.get "priority" Decode.word 0
    category := ← row.get "category" Decode.string "" }

/-- A member that is left out when it has no value. -/
def optionalMember (key : String) : Option String → List (String × Value)
  | some s => [(key, .string s)]
  | none => []

def encode (snippet : Snippet) : Value :=
  .object (
    [("id", .string snippet.id), ("content", .string snippet.content), ("targetFile", .string snippet.targetFile),
      ("insertionPoint", .string snippet.insertionPoint)]
    ++ optionalMember "insertBefore" snippet.insertBefore
    ++ optionalMember "insertAfter" snippet.insertAfter
    ++ [("description", .string snippet.description), ("priority", .integer snippet.priority),
      ("category", .string snippet.category)])

end Snippet
end Scaffold
