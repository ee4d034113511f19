import Scaffold.Proofs.Request.Document
import Scaffold.Snippet

namespace Scaffold

open Json

/-!
# Documents of requests and snippets

Both documents are decoded to what they were made from, and so are their texts, in either layout.  A
snippet leaves out an anchor that it does not have, so its document has seven, eight or nine
members; its priority is a number below `2 ^ 32`.
-/

namespace Json

theorem decode_word {n : Nat} (small : n < 2 ^ 32) : Decode.word (.integer n) = .ok n := by
  rw [Decode.word, if_pos]
  · rw [Int.toNat_natCast]
  · simp only [Bool.and_eq_true, decide_eq_true_eq]
    exact ⟨Int.natCast_nonneg n, by exact_mod_cast small⟩

end Json

namespace Snippet

variable {snippet : Snippet}

/-- The priority fits into the numbers that a document can hold. -/
def HasWordPriority (snippet : Snippet) : Prop :=
  snippet.priority < 2 ^ 32

/-- A member that is left out when it has no value, as it is read. -/
def optionalReading (key : String) (text : Option String) : List (String × Reading) :=
  text.toList.map fun s => (key, .string s)

/-- The members of the document of a snippet, as they are read. -/
def members (snippet : Snippet) : List (String × Reading) :=
  [("id", .string snippet.id), ("content", .string snippet.content), ("targetFile", .string snippet.targetFile),
    ("insertionPoint", .string snippet.insertionPoint)]
  ++ optionalReading "insertBefore" snippet.insertBefore
  ++ optionalReading "insertAfter" snippet.insertAfter
  ++ [("description", .string snippet.description), ("priority", .integer snippet.priority),
    ("category", .string snippet.category)]

theorem ofValue_encode (snippet : Snippet) : Reading.ofValue snippet.encode = .object snippet.members none := by
  rw [encode, members]
  cases snippet.insertBefore <;> cases snippet.insertAfter <;> rfl

theorem takes_optionalReading {key : String} {column : Column} (known : layout.column? key = some column)
    (named : column.name = key) (free : ∀ s, column.check (.string s) = .ok ()) (text : Option String) :
    layout.Takes (optionalReading key text) := by
  cases text with
  | none => exact Layout.takes_nil
  | some s => exact .cons Layout.takes_nil known named (free s)

theorem takes_members (word : snippet.HasWordPriority) : layout.Takes snippet.members := by
  have priority := (Column.check_of_decode (decode_word word) "priority" []).1
  have opening : layout.Takes [("id", .string snippet.id), ("content", .string snippet.content),
      ("targetFile", .string snippet.targetFile), ("insertionPoint", .string snippet.insertionPoint)] :=
    .cons (.cons (.cons (.cons Layout.takes_nil rfl rfl rfl) rfl rfl rfl) rfl rfl rfl) rfl rfl rfl
  have closing : layout.Takes
      [("description", .string snippet.description), ("priority", .integer snippet.priority),
      ("category", .string snippet.category)] :=
    .cons (.cons (.cons Layout.takes_nil rfl rfl rfl) rfl rfl priority) rfl rfl rfl
  have before := @takes_optionalReading "insertBefore" _ rfl rfl (fun _ => rfl) snippet.insertBefore
  have after := @takes_optionalReading "insertAfter" _ rfl rfl (fun _ => rfl) snippet.insertAfter
  simp only [Layout.Takes, members, List.forall_mem_append] at opening closing before after ⊢
  exact ⟨⟨⟨opening, before⟩, after⟩, closing⟩

/-- The keys of the document stand in the order of the columns, and only anchors are left out. -/
theorem keys_members (snippet : Snippet) : (snippet.members.map Prod.fst).Nodup ∧
    ∀ column ∈ layout.columns, column.mandatory = true → column.name ∈ snippet.members.map Prod.fst := by
  rw [members]
  cases snippet.insertBefore <;> cases snippet.insertAfter <;>
    simp [optionalReading, layout, Column.required, Column.defaulted]

theorem get_optionalReading (snippet : Snippet) :
    Row.get snippet.members "insertBefore" (Decode.optional Decode.string) none = .ok snippet.insertBefore ∧
      Row.get snippet.members "insertAfter" (Decode.optional Decode.string) none = .ok snippet.insertAfter := by
  rw [members]
  cases snippet.insertBefore <;> cases snippet.insertAfter <;> exact ⟨rfl, rfl⟩

theorem get_closing (word : snippet.HasWordPriority) :
    Row.get snippet.members "description" Decode.string "" = .ok snippet.description ∧
      Row.get snippet.members "priority" Decode.word 0 = .ok snippet.priority ∧
      Row.get snippet.members "category" Decode.string "" = .ok snippet.category := by
  rw [← decode_word word, members]
  cases snippet.insertBefore <;> cases snippet.insertAfter <;> exact ⟨rfl, rfl, rfl⟩

/-- The document of a snippet is decoded to the snippet, with and without anchors. -/
theorem decode_encode (word : snippet.HasWordPriority) : decode (.ofValue snippet.encode) = .ok snippet := by
  have taken : layout.row (.object snippet.members none) = .ok snippet.members :=
    Layout.row_of_takes (takes_members word) snippet.keys_members.1 snippet.keys_members.2
  obtain ⟨before, after⟩ := snippet.get_optionalReading
  obtain ⟨description, priority, category⟩ := get_closing word
  rw [ofValue_encode, decode, taken]
  dsimp only [bind, Except.bind]
  rw [before, after, description, priority, category]
  rfl

theorem isExact_encode (word : snippet.HasWordPriority) : IsExact snippet.encode := by
  have priority : FitsWord (snippet.priority : Int) := by
    rw [HasWordPriority] at word
    rw [FitsWord]
    omega
  rw [encode]
  cases snippet.insertBefore <;> cases snippet.insertAfter <;>
    simp [optionalMember, IsExact, AllMembersExact, priority]

end Snippet

/-! ## Both documents -/

/-- Requests and snippets come back from their documents as they were, and from the texts of these
in both layouts. -/
theorem documents_readBack :
    (∀ (request : Request) (raw : String), request.component = .ofName raw →
      Request.decode (.ofValue request.encode) = .ok request ∧
        Request.parse request.encode.compactText = .ok request ∧
        Request.parse request.encode.prettyText = .ok request) ∧
    ∀ snippet : Snippet, snippet.HasWordPriority →
      Snippet.decode (.ofValue snippet.encode) = .ok snippet ∧
        decodeText Snippet.decode snippet.encode.compactText = .ok snippet ∧
        decodeText Snippet.decode snippet.encode.prettyText = .ok snippet := by
  constructor
  · intro request raw named
    have decoded : Request.decode (.ofValue request.encode) = .ok request := by
      apply Request.decode_encode
      rw [named, Component.ofName_name]
    obtain ⟨pretty, compact⟩ := decodeText_text Request.decode request.isExact_encode
    exact ⟨decoded, compact.trans decoded, pretty.trans decoded⟩
  · intro snippet word
    have decoded := Snippet.decode_encode word
    obtain ⟨pretty, compact⟩ := decodeText_text Snippet.decode (Snippet.isExact_encode word)
    exact ⟨decoded, compact.trans decoded, pretty.trans decoded⟩

/-- A request for a component that nobody knows, with an empty display name and a field with signs
in its texts. -/
def widgetRequest : Request where
  component := .ofName " Widget-Set "
  modelName := "Größe"
  displayName := some ""
  fields := [{ name := "a\"b", logicalType := "map[string]\n", comment := "\x01\\" }]
  options := { formatCode := false }

/-- A snippet with one anchor of two and the highest priority. -/
def anchoredSnippet : Snippet where
  id := "routes_order"
  content := "line\r\n"
  targetFile := "routes.go"
  insertionPoint := ""
  insertAfter := some "^\\s*$"
  description := "登録"
  priority := 4294967295
  category := "routes"

theorem documents_readBack_widget :
    widgetRequest.component = .unknown " Widget-Set " ∧
      Request.parse widgetRequest.encode.compactText = .ok widgetRequest ∧ anchoredSnippet.HasWordPriority ∧
      decodeText Snippet.decode anchoredSnippet.encode.compactText = .ok anchoredSnippet := by
  have word : anchoredSnippet.HasWordPriority := by
    rw [Snippet.HasWordPriority]
    decide
  exact ⟨by decide +kernel, (documents_readBack.1 widgetRequest " Widget-Set " rfl).2.1, word,
    (documents_readBack.2 anchoredSnippet word).2.1⟩

end Scaffold
