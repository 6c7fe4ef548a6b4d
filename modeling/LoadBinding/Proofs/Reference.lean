import LoadBinding.Proofs.Preparing

/-!
# Reference tables

A `Reference` is what a store of records looks like to its users: for each table a map from keys to
records.  It knows nothing of endpoints, calls, filters or documents.  A record is the list of its
fields without the key; what becomes of a payload on its way into the record is up to
`Payload.prepare`, so the draws that this takes and the markers of updates are part of the
reference.

`Reference.run` answers requests on records.  An answer has a status and data, but no message.
-/

namespace LoadBinding

open LoadBinding.Text LoadBinding.Action

/-! ## Answers without messages -/

/-- An outcome without its message. -/
def Outcome.plain {α : Type} (o : Outcome α) : Outcome α :=
  { o with message := none }

/-- An answer without its message. -/
def Answer.plain : Answer → Answer
  | .outcome o => .outcome o.plain
  | .record o => .record o.plain
  | .records o => .records o.plain
  | answer => answer

/-- The outcome of what cannot be done. -/
def Outcome.failure {α : Type} : Outcome α :=
  { status := .error }

/-! ## Markers -/

/-- The marker that is given out after a number of others. -/
def marker (count : ℕ) : String :=
  String.ofList (hex 24 count)

lemma exec_nextMarker (w : World) :
    exec nextMarker w =
      (.ok (marker (w.markers + 1)), { w with markers := w.markers + 1 }) := rfl

/-- The first markers that are given out are different from one another. -/
def MarkersDiffer (count : ℕ) : Prop :=
  ∀ i j, 0 < i → i < j → j ≤ count → marker i ≠ marker j

lemma hexDigit_inj {m n : ℕ} (hm : m < 16) (hn : n < 16) (h : hexDigit m = hexDigit n) : m = n := by
  have hdigits : ∀ i j : Fin 16, hexDigit i = hexDigit j → i = j := by decide
  exact congrArg Fin.val (hdigits ⟨m, hm⟩ ⟨n, hn⟩ h)

/-- The last digits of a number determine it, if it has no others. -/
lemma hex_inj {width m n : ℕ} (hm : m < 16 ^ width) (hn : n < 16 ^ width)
    (h : hex width m = hex width n) : m = n := by
  induction width generalizing m n with
  | zero => omega
  | succ width ih =>
    rw [pow_succ] at hm hn
    obtain ⟨hrest, hlast⟩ := List.append_inj' h rfl
    have hdiv : m / 16 = n / 16 := ih (by omega) (by omega) hrest
    have hmod : m % 16 = n % 16 :=
      hexDigit_inj (Nat.mod_lt _ (by decide)) (Nat.mod_lt _ (by decide)) (List.cons.inj hlast).1
    omega

lemma MarkersDiffer.mono {count count' : ℕ} (h : MarkersDiffer count) (hle : count' ≤ count) :
    MarkersDiffer count' :=
  fun i j hpos hij hj => h i j hpos hij (hj.trans hle)

/-- Markers differ as long as their digits suffice. -/
lemma markersDiffer_of_lt {count : ℕ} (h : count < 16 ^ 24) : MarkersDiffer count := by
  intro i j _ hij hj heq
  have hdigits : hex 24 i = hex 24 j := String.ofList_injective heq
  exact Nat.ne_of_lt hij (hex_inj (by omega) (by omega) hdigits)

/-! ## Records -/

namespace Settings

variable (s : Settings)

/-- The routing fields of some settings are distinct, and none of them is the field of the key or of
the marker. -/
structure RoutesApart : Prop where
  shardKey : s.shardKey.isEmpty = false → s.shardKey ≠ idField ∧ s.shardKey ≠ Context.markerField
  location : s.location.isEmpty = false →
    s.locationField ≠ idField ∧ s.locationField ≠ Context.markerField
  distinct : s.shardKey.isEmpty = false → s.location.isEmpty = false →
    s.shardKey ≠ s.locationField

/-- A payload may have a field unless it is the field of the key, of the marker, or of a location
that the run does not have. -/
structure IsPayloadField (field : String) : Prop where
  ne_idField : field ≠ idField
  ne_markerField : field ≠ Context.markerField
  ne_locationField : s.location.isEmpty = true → field ≠ s.locationField

/-- The record that an insertion stores: the prepared payloads of the fields that do not route, and
the routing fields. -/
def recordFor (key : String) (values : Mapping Bytes) (draws : Draws) :
    Except PayloadError Document × Draws :=
  let (prepared, draws) := s.prepareAll (s.routing key).has [] draws values
  (prepared.map fun record => record.update ((s.routing key).mapValues Value.text), draws)

/-- What an update sets: a fresh marker, and the prepared payloads of the fields that do not route.
-/
def changesFor (key : String) (values : Mapping Bytes) (count : ℕ) (draws : Draws) :
    Except PayloadError Document × Draws :=
  s.prepareAll (s.routing key).has [(Context.markerField, .text (marker count))] draws values

/-- Some fields of a record. -/
def restrict (included : Option (String → Bool)) (record : Document) : Document :=
  match included with
  | none => record
  | some included => record.filter fun pair => included pair.1

/-- The fields that a read returns: those asked for, and the routing fields. -/
def readFields (key : String) (fields : Option (List String)) : Option (String → Bool) :=
  fields.map fun fields field => fields.contains field || (s.routing key).has field

/-- The fields that a scan returns. -/
def scanFields (fields : Option (List String)) : Option (String → Bool) :=
  fields.map fun fields field => fields.contains field

end Settings

/-! ## Requests on records -/

namespace Request

/-- The table that a request on records is about. -/
def table? : Request → Option String
  | insert _ table _ _ => some table
  | update _ table _ _ => some table
  | read _ table _ _ => some table
  | delete _ table _ => some table
  | scan _ table _ _ _ => some table
  | _ => none

/-- Whether a request takes a marker. -/
def isUpdate : Request → Bool
  | update _ _ _ _ => true
  | _ => false

/-- A request on records by one of some workers: the payloads have fields that may be stored, the
fields that are asked for are not none at all, and a scan asks for some records. -/
def Accesses (s : Settings) (names : List String) : Request → Prop
  | insert name _ _ values => name ∈ names ∧ ∀ field ∈ values.keys, s.IsPayloadField field
  | update name _ _ values => name ∈ names ∧ ∀ field ∈ values.keys, s.IsPayloadField field
  | read name _ _ fields => name ∈ names ∧ fields ≠ some []
  | delete name _ _ => name ∈ names
  | scan name _ _ count fields => name ∈ names ∧ 1 ≤ count ∧ fields ≠ some []
  | _ => False

end Request

/-! ## The reference -/

/-- The records of a table by key, in the order of their keys. -/
abbrev Table := Std.TreeMap String Document

/-- The tables of a store, with the sources of what is drawn for their records. -/
structure Reference where
  draws : Draws
  tables : String → Table := fun _ => ∅
  /-- How many update markers have been given out. -/
  markers : ℕ := 0

namespace Reference

variable (s : Settings) (r : Reference)

/-- Replaces a table. -/
def setTable (name : String) (table : Table) : Reference :=
  { r with tables := fun other => if other = name then table else r.tables other }

/-- Inserts a record under a key that is free. -/
def insert (name key : String) (values : Mapping Bytes) : Outcome Unit × Reference :=
  let (prepared, draws) := s.recordFor key values r.draws
  let r := { r with draws := draws }
  match prepared with
  | .error _ => (.failure, r)
  | .ok record =>
    match (r.tables name)[key]? with
    | some _ => (.failure, r)
    | none => (.ok none, r.setTable name ((r.tables name).insert key record))

/-- Changes fields of a record. -/
def update (name key : String) (values : Mapping Bytes) : Outcome Unit × Reference :=
  let (prepared, draws) := s.changesFor key values (r.markers + 1) r.draws
  let r := { r with draws := draws, markers := r.markers + 1 }
  match prepared with
  | .error _ => (.failure, r)
  | .ok changes =>
    match (r.tables name)[key]? with
    | none => (.failure, r)
    | some record =>
      (.ok none, r.setTable name ((r.tables name).insert key (record.update changes)))

/-- Removes a record, if there is one. -/
def delete (name key : String) : Reference :=
  r.setTable name ((r.tables name).erase key)

/-- Reads a record as bytes. -/
def read (name key : String) (fields : Option (List String)) : Outcome (Mapping Bytes) :=
  match (r.tables name)[key]? with
  | none => .failure
  | some record =>
    .ok (some ((Settings.restrict (s.readFields key fields) record).mapValues Value.toBytes))

/-- Reads the bytes of the first records from a key on. -/
def scan (name start : String) (count : ℕ) (fields : Option (List String)) :
    Outcome (List (Mapping Bytes)) :=
  match ((r.tables name).toList.filter fun entry => !decide (entry.1 < start)).take count with
  | [] => .failure
  | found => .ok (some (found.map fun entry =>
      Context.bytesOf (Settings.restrict (Settings.scanFields fields) entry.2)))

/-- The answer to a request on records, and the reference after it. -/
def step : Request → Answer × Reference
  | .insert _ table key values =>
    (.outcome (r.insert s table key values).1, (r.insert s table key values).2)
  | .update _ table key values =>
    (.outcome (r.update s table key values).1, (r.update s table key values).2)
  | .read _ table key fields => (.record (r.read s table key fields), r)
  | .delete _ table key => (.outcome (.ok none), r.delete table key)
  | .scan _ table start count fields => (.records (r.scan table start count.toNat fields), r)
  | _ => (.done, r)

/-- The answers to requests on records, and the reference after them. -/
def run (r : Reference) : List Request → List Answer × Reference
  | [] => ([], r)
  | request :: requests =>
    (((r.step s request).1 :: ((r.step s request).2.run requests).1),
      ((r.step s request).2.run requests).2)

/-- Every update takes a marker, and nothing else does. -/
lemma markers_step (request : Request) :
    (r.step s request).2.markers = r.markers + if request.isUpdate then 1 else 0 := by
  cases request with
  | insert name table key values =>
    change (r.insert s table key values).2.markers = _
    unfold Reference.insert
    dsimp only
    split
    · rfl
    · split <;> rfl
  | update name table key values =>
    change (r.update s table key values).2.markers = _
    unfold Reference.update
    dsimp only
    split
    · rfl
    · split <;> rfl
  | _ => rfl

end Reference

end LoadBinding
