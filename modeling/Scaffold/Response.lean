import Scaffold.Snippet

namespace Scaffold

/-!
# Responses
-/

/-- What a generation did. -/
structure Response where
  success : Bool
  /-- The files that were written, relative to the output root. -/
  files : List String := []
  snippets : List Snippet := []
  message : String
  historyUpdated : Bool := false
  errors : List String := []
  deriving DecidableEq, Repr, Inhabited

namespace Response

/-- A failed generation. -/
def failure (message : String) (errors : List String) : Response where
  success := false
  message := message
  errors := errors

open Json in
/-- The response as JSON; empty lists of snippets and errors are left out. -/
def encode (response : Response) : Value :=
  let snippets := if response.snippets.isEmpty then [] else
    [("codeSnippets", Value.array (response.snippets.map Snippet.encode))]
  let errors := if response.errors.isEmpty then [] else [("errors", Value.strings response.errors)]
  .object (
    [("success", .bool response.success), ("generatedFiles", .strings response.files)] ++ snippets
    ++ [("message", .string response.message), ("historyUpdated", .bool response.historyUpdated)] ++ errors)

end Response
end Scaffold
