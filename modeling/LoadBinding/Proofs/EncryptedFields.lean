import LoadBinding.Proofs.IntegerLists

/-!
# The fields that the schemas describe

Which fields are encrypted is said in three forms: as a schema for the client, as the same schema
for the store, and as a list of fields that can be searched.  Each form is read here for itself, as
its reader would read it, into the fields that it describes (`Schema.Described`).  All forms turn
out to describe the same fields in the same order, with the same key and the same type.

Two of the collections are mappings by the name of the field, so a name that occurred twice would
stand for one field only.  The names are numbered, and different numbers are written differently
(`Discrete.fieldName_injective`); so nothing is lost when a mapping is written entry by entry
(`Mapping.ofPairs_of_nodup`).
-/

namespace LoadBinding

/-! ## Fields with generators -/

namespace Discrete

/-- The generators stand in the order of their fields. -/
lemma sublist_keys_forFieldsFrom (start : ℕ) (cardinalities : List ℤ) :
    (Mapping.keys (forFieldsFrom start cardinalities)).Sublist
      ((List.range' start cardinalities.length).map fieldName) := by
  induction cardinalities generalizing start with
  | nil => exact List.Sublist.refl _
  | cons count rest ih =>
    rw [List.length_cons, List.range'_succ, List.map_cons, forFieldsFrom]
    split
    · apply List.Sublist.cons
      exact ih (start + 1)
    · apply List.Sublist.cons_cons
      exact ih (start + 1)

lemma nodup_keys_forFields (cardinalities : List ℤ) :
    (Mapping.keys (forFields cardinalities)).Nodup := by
  apply List.Nodup.sublist (sublist_keys_forFieldsFrom 0 cardinalities)
  exact List.Nodup.map fieldName_injective List.nodup_range'

/-- The fields with a generator are those whose cardinality is positive. -/
lemma mem_keys_forFields {cardinalities : List ℤ} {name : String} :
    name ∈ Mapping.keys (forFields cardinalities) ↔
      ∃ i, 0 < cardinalities[i]?.getD 0 ∧ name = fieldName i := by
  rw [Mapping.mem_keys_iff]
  constructor
  · rintro ⟨g, hg⟩
    obtain ⟨i, hpos, hname, -⟩ := (get?_forFields_iff cardinalities name g).mp hg
    exact ⟨i, hpos, hname⟩
  · rintro ⟨i, hpos, hname⟩
    exact ⟨_, (get?_forFields_iff cardinalities name _).mpr ⟨i, hpos, hname, rfl⟩⟩

end Discrete

/-! ## Encrypted fields -/

namespace Schema

open Discrete

variable (key : KeyId) (count : ℤ) (encoding : Encoding)

lemma nodup_fieldNames : (fieldNames count).Nodup :=
  List.nodup_range.map fieldName_injective

lemma fieldName_mem_fieldNames {i : ℕ} : fieldName i ∈ fieldNames count ↔ i < count := by
  rw [fieldNames, List.mem_map_of_injective fieldName_injective, List.mem_range]
  omega

/-- What a form of a schema says about one field: its name, the keys that may encrypt it, and the
type that its values have. -/
structure Described where
  name : Option String
  keys : List Value
  type : Option Value

/-- The fields that a schema of legacy encryption describes. -/
def describedByLegacy (schema : Document) : List Described :=
  match schema.get? "properties" with
  | some (.document rules) =>
    rules.map fun (name, rule) =>
      let encrypt := member? "encrypt" rule
      { name := some name
        keys := (encrypt.bind (member? "keyId")).elim [] elements
        type := encrypt.bind (member? "bsonType") }
  | _ => []

/-- The fields that a validator of the store describes. -/
def describedByRemote (validator : Document) : List Described :=
  match validator.get? "$jsonSchema" with
  | some (.document schema) => describedByLegacy schema
  | _ => []

/-- The fields that a list of fields to be searched describes. -/
def describedByQueryable (fields : Document) : List Described :=
  ((fields.get? "fields").elim [] elements).map fun description =>
    { name := (member? "path" description).bind asText?
      keys := (member? "keyId" description).toList
      type := member? "bsonType" description }

/-- The fields to be encrypted with a key as a type. -/
def described : List Described :=
  (fieldNames count).map fun name =>
    { name := some name, keys := [key.toValue], type := some (.text encoding.word) }

lemma describedByLegacy_legacySchema :
    describedByLegacy (legacySchema key count encoding) = described key count encoding := by
  change (legacyRules key count encoding).map _ = _
  rw [legacyRules, List.map_map]
  rfl

lemma describedByQueryable_queryableFields (factors : List ℤ) :
    describedByQueryable (queryableFields key count encoding factors) =
      described key count encoding := by
  change ((List.range count.toNat).map _).map _ = _
  rw [described, fieldNames, List.map_map, List.map_map]
  rfl

lemma keys_legacyRules :
    Mapping.keys (legacyRules key count encoding) = fieldNames count := by
  rw [Mapping.keys, legacyRules, List.map_map]
  exact List.map_id _

/-- All forms of the schema describe the same fields, numbered from zero, in order and with
different names, and each with the one key and the one type.  The rules and the generators are
mappings that lose no field when they are written name by name, and the fields that have both are
those below the number of fields whose cardinality is positive. -/
theorem forms_describe_same_fields (factors cardinalities : List ℤ) :
    (fieldNames count = (List.range (max count 0).toNat).map (fun i => "field" ++ toString i) ∧
      (fieldNames count).Nodup) ∧
    (describedByLegacy (legacySchema key count encoding) = described key count encoding ∧
      describedByRemote (remoteSchema key count encoding) = described key count encoding ∧
      describedByQueryable (queryableFields key count encoding factors) =
        described key count encoding) ∧
    (Mapping.ofPairs (legacyRules key count encoding) = legacyRules key count encoding ∧
      Mapping.ofPairs (forFields cardinalities) = forFields cardinalities) ∧
    ∀ name, name ∈ Mapping.keys (forFields cardinalities) ∧ name ∈ fieldNames count ↔
      ∃ i : ℕ, i < count ∧ 0 < cardinalities[i]?.getD 0 ∧ name = "field" ++ toString i := by
  have hlegacy := describedByLegacy_legacySchema key count encoding
  refine ⟨⟨?_, nodup_fieldNames count⟩, ⟨hlegacy, hlegacy, ?_⟩, ⟨?_, ?_⟩, ?_⟩
  · have hlength : (max count 0).toNat = count.toNat := by omega
    rw [hlength]
    rfl
  · exact describedByQueryable_queryableFields key count encoding factors
  · apply Mapping.ofPairs_of_nodup
    rw [keys_legacyRules]
    exact nodup_fieldNames count
  · apply Mapping.ofPairs_of_nodup
    exact nodup_keys_forFields cardinalities
  · intro name
    rw [mem_keys_forFields]
    constructor
    · rintro ⟨⟨i, hpos, rfl⟩, hname⟩
      exact ⟨i, (fieldName_mem_fieldNames count).mp hname, hpos, rfl⟩
    · rintro ⟨i, hcount, hpos, rfl⟩
      exact ⟨⟨i, hpos, rfl⟩, (fieldName_mem_fieldNames count).mpr hcount⟩

end Schema

end LoadBinding
