import Scaffold.Proofs.Naming.Letters
import Scaffold.Proofs.Validation.Acceptance

namespace Scaffold

/-!
# Keys of the fields in JSON

A field travels under its declared tag, or under its name in snake case.  Acceptance keeps the
exported identifiers of the fields apart, not their keys: `productCode` and `product_code` are two
identifiers and one key, and a field named `id` has the key that every response uses for the
record's own number.  What sets two keys apart are their letters.
-/

namespace Field

/-- A field whose key is made from its name. -/
def IsUntagged (field : Field) : Prop :=
  (Text.trimmed field.serializationTag).isEmpty = true

instance (field : Field) : Decidable field.IsUntagged :=
  inferInstanceAs (Decidable (_ = true))

/-- The letters of a field's key: those of its tag, or those of its name in small letters. -/
def keyLetters (field : Field) : List Char :=
  let tag := Text.trimmed field.serializationTag
  Naming.unspaced (if tag.isEmpty then Text.lowerChars field.name.toList else tag.toList)

/-- A field whose key is its name as it stands. -/
structure IsPlain (field : Field) : Prop where
  untagged : field.IsUntagged
  uncapped : Naming.IsUncapped field.name.toList

instance (field : Field) : Decidable field.IsPlain :=
  decidable_of_iff (field.IsUntagged ∧ Naming.IsUncapped field.name.toList)
    ⟨fun both => ⟨both.1, both.2⟩, fun plain => ⟨plain.untagged, plain.uncapped⟩⟩

variable {field other : Field}

theorem serializationKey_of_isUntagged (untagged : field.IsUntagged) :
    field.serializationKey = Naming.snakeCase field.name :=
  if_pos untagged

theorem serializationKey_of_isPlain (plain : field.IsPlain) : field.serializationKey = field.name := by
  rw [serializationKey_of_isUntagged plain.untagged, Naming.snakeCase, Naming.snake_of_isUncapped plain.uncapped,
    String.ofList_toList]

/-- A key spells the letters of its field. -/
theorem unspaced_serializationKey (field : Field) :
    Naming.unspaced field.serializationKey.toList = field.keyLetters := by
  simp only [serializationKey, keyLetters]
  split
  · rw [Naming.snakeCase, String.toList_ofList, Naming.unspaced_snake]
  · rfl

theorem keyLetters_eq_of_serializationKey_eq (same : field.serializationKey = other.serializationKey) :
    field.keyLetters = other.keyLetters := by
  rw [← unspaced_serializationKey, same, unspaced_serializationKey]

/-! ## Fields with different keys -/

/-- Fields that differ in the letters of their keys, or that both travel under their names. -/
def TellsApart (field other : Field) : Prop :=
  field.keyLetters ≠ other.keyLetters ∨ (field.IsPlain ∧ other.IsPlain)

instance (field other : Field) : Decidable (field.TellsApart other) :=
  inferInstanceAs (Decidable (_ ∨ _))

theorem TellsApart.serializationKey_ne (apart : field.TellsApart other) (named : field.name ≠ other.name) :
    field.serializationKey ≠ other.serializationKey := by
  intro same
  rcases apart with letters | ⟨plain, otherPlain⟩
  · exact letters (keyLetters_eq_of_serializationKey_eq same)
  · rw [serializationKey_of_isPlain plain, serializationKey_of_isPlain otherPlain] at same
    exact named same

/-- The key under which every response carries the number of the record. -/
def identityKey : String := "id"

/-- A field whose key is not that of the record's number: by its letters, or by its name if it
travels under that. -/
def SparesIdentity (field : Field) : Prop :=
  field.keyLetters ≠ identityKey.toList ∨ (field.IsPlain ∧ field.name ≠ identityKey)

instance (field : Field) : Decidable field.SparesIdentity :=
  inferInstanceAs (Decidable (_ ∨ _))

theorem SparesIdentity.serializationKey_ne (spares : field.SparesIdentity) :
    field.serializationKey ≠ identityKey := by
  intro same
  rcases spares with letters | ⟨plain, named⟩
  · exact letters (by rw [← unspaced_serializationKey, same]; rfl)
  · exact named (by rw [← serializationKey_of_isPlain plain, same])

end Field

namespace Request

/-- The keys of a request's fields, after the one that every response has. -/
def responseKeys (request : Request) : List String :=
  Field.identityKey :: request.fields.map Field.serializationKey

/-- The fields of a request have letters that tell their keys apart, from each other and from the
record's number. -/
structure HasTellingKeys (request : Request) : Prop where
  pairwise : request.fields.Pairwise Field.TellsApart
  identity : ∀ field ∈ request.fields, field.SparesIdentity

/-- No two fields of an accepted request have the same name. -/
theorem pairwise_name_ne {request : Request} (accepted : Validation.check request = []) :
    request.fields.Pairwise (fun field other => field.name ≠ other.name) := by
  have distinct := (Validation.check_eq_nil.1 accepted).distinct
  rw [List.Nodup, List.pairwise_map] at distinct
  exact distinct.imp fun apart same => apart (congrArg Naming.sanitize same)

/-- The keys of an accepted request are pairwise different, and none is that of the record's number,
if the letters of its fields tell them apart. -/
theorem responseKeys_nodup {request : Request} (accepted : Validation.check request = [])
    (telling : request.HasTellingKeys) : request.responseKeys.Nodup := by
  refine List.nodup_cons.2 ⟨?_, ?_⟩
  · intro member
    rcases List.mem_map.1 member with ⟨field, inside, same⟩
    exact (telling.identity field inside).serializationKey_ne same
  · rw [List.Nodup, List.pairwise_map]
    refine telling.pairwise.imp₂ ?_ (pairwise_name_ne accepted)
    exact fun field other apart named => apart.serializationKey_ne named

/-- An order whose keys come from names in both spellings and from a tag. -/
def shippedOrder : Request where
  component := .one (.layer .handler)
  modelName := "Order"
  fields := [
    { name := "orderNo", logicalType := "string" },
    { name := "ship_date", logicalType := "date" },
    { name := "shipdate", logicalType := "date" },
    { name := "ID", logicalType := "int", serializationTag := " number " }]

theorem responseKeys_nodup_shippedOrder :
    shippedOrder.responseKeys = ["id", "order_no", "ship_date", "shipdate", "number"] ∧
      Validation.check shippedOrder = [] ∧ shippedOrder.HasTellingKeys ∧ shippedOrder.responseKeys.Nodup := by
  have accepted : Validation.check shippedOrder = [] := by decide
  have telling : shippedOrder.HasTellingKeys := ⟨by decide, by decide⟩
  exact ⟨by decide +kernel, accepted, telling, responseKeys_nodup accepted telling⟩

/-- Two fields with one key. -/
def twofoldCode : Request where
  component := .one (.layer .handler)
  modelName := "Order"
  fields := [{ name := "productCode", logicalType := "string" },
    { name := "product_code", logicalType := "string" }]

/-- A field with the key of the record's number. -/
def numberedOrder : Request where
  component := .one (.layer .handler)
  modelName := "Order"
  fields := [{ name := "id", logicalType := "int" }]

/-- Acceptance does not keep keys apart: two fields of an accepted request can have one key, and a
field can have the key of the record's number. -/
theorem not_responseKeys_nodup_of_check :
    (Validation.check twofoldCode = [] ∧
      twofoldCode.fields.map Field.serializationKey = ["product_code", "product_code"]) ∧
      Validation.check numberedOrder = [] ∧
        numberedOrder.fields.map Field.serializationKey = [Field.identityKey] := by
  refine ⟨⟨?_, ?_⟩, ?_, ?_⟩ <;> decide +kernel

end Request
end Scaffold
