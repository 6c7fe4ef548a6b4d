import LoadBinding.Proofs.Writing

/-!
# Ledgers

A `Ledger` describes a run of insertions, flushes and clean-ups without mentioning batches: it notes
which workers are registered, which draws are left, and which documents were inserted into each
table, whether they are written or still buffered.

As long as every insertion has a key of its own (`Ledger.Fresh`), the documents that a ledger notes
for a table can be inserted into it.
-/

namespace LoadBinding

open LoadBinding.Text LoadBinding.Action World Batch Collection

/-- What the workers of a run have inserted, whether it is written or still buffered. -/
structure Ledger where
  draws : Draws
  /-- For each worker whether it is registered. -/
  workers : Mapping Bool
  /-- The documents of each table, in the order of insertion. -/
  documents : String → List Document := fun _ => []

namespace Request

/-- Whether a request is an insertion, a flush or a clean-up. -/
def writes : Request → Bool
  | insert _ _ _ _ => true
  | flush _ _ => true
  | cleanUp _ => true
  | _ => false

/-- The key that a request inserts into a table. -/
def insertedKey? (table : String) : Request → Option String
  | insert _ table' key _ => if table' = table then some key else none
  | _ => none

/-- Whether a request inserts a payload that would replace the key of its record. -/
def replacesKey : Request → Bool
  | insert _ _ _ values => values.has idField
  | _ => false

end Request

/-- The keys that some requests insert into a table, in order. -/
def insertedKeys (table : String) (requests : List Request) : List String :=
  requests.filterMap (Request.insertedKey? table)

namespace Ledger

variable (s : Settings) (l : Ledger)

/-- The answer to an insertion, a flush or a clean-up, and the ledger after it. -/
def step : Request → Except Failure Answer × Ledger
  | .insert name table key values =>
    if l.workers.get? name = some true then
      (.ok (.outcome (s.insertOutcome key values l.draws)),
        { l with
          draws := (s.documentOf key values l.draws).2
          documents := fun t =>
            l.documents t ++ if t = table then s.stored key values l.draws else [] })
    else (.error .workerInactive, l)
  | .flush name _ =>
    if l.workers.get? name = some true then (.ok (.outcome (.ok none)), l)
    else (.error .workerInactive, l)
  | .cleanUp name =>
    match l.workers.get? name with
    | none => (.error .workerInactive, l)
    | some _ => (.ok .done, { l with workers := l.workers.set name false })
  | _ => (.ok .done, l)

/-- The answers to a sequence of requests, and the ledger after them. -/
def run (l : Ledger) : List Request → List (Except Failure Answer) × Ledger
  | [] => ([], l)
  | request :: requests =>
    (((l.step s request).1 :: ((l.step s request).2.run requests).1),
      ((l.step s request).2.run requests).2)

/-- Every insertion that has been made or is still to come has a key of its own in its table, which
no row had before. -/
structure Fresh (base : String → List Row) (l : Ledger) (requests : List Request) : Prop where
  insertable : ∀ table, Insertable (base table) (l.documents table)
  nodup : ∀ table,
    ((l.documents table).map keyOf ++ (insertedKeys table requests).map Value.text).Nodup
  free : ∀ table, ∀ key ∈ insertedKeys table requests, taken (base table) (.text key) = false
  keyed : ∀ request ∈ requests, request.replacesKey = false

variable {s l} {base : String → List Row}

/-- An insertion stores at most one document, which is keyed by the key of the insertion. -/
lemma stored_cases (hlocation : s.location.isEmpty = false → s.locationField ≠ idField)
    (key : String) {values : Mapping Bytes} (hvalues : values.has idField = false) (draws : Draws) :
    s.stored key values draws = [] ∨
      ∃ doc, s.stored key values draws = [doc] ∧ doc.get? idField = some (.text key) := by
  unfold Settings.stored
  cases hdoc : (s.documentOf key values draws).1 with
  | error e => exact .inl rfl
  | ok doc =>
    exact .inr ⟨doc, rfl,
      Settings.get?_documentOf hlocation (Mapping.not_mem_keys_of_has_eq_false hvalues) hdoc⟩

/-- A request adds at most the document of its insertion to a table. -/
lemma documents_step (hlocation : s.location.isEmpty = false → s.locationField ≠ idField)
    (l : Ledger) {request : Request} (hkeyed : request.replacesKey = false) (table : String) :
    (l.step s request).2.documents table = l.documents table ∨
      ∃ doc key, (l.step s request).2.documents table = l.documents table ++ [doc] ∧
        request.insertedKey? table = some key ∧ doc.get? idField = some (.text key) := by
  cases request with
  | insert name table' key values =>
    unfold step
    dsimp only
    split
    · by_cases ht : table = table'
      · subst ht
        rcases stored_cases hlocation key hkeyed l.draws with hstored | ⟨doc, hstored, hkey⟩
        · left
          simp [hstored]
        · right
          exact ⟨doc, key, by simp [hstored], if_pos rfl, hkey⟩
      · left
        simp [ht]
    · exact .inl rfl
  | flush name selection =>
    left
    unfold step
    dsimp only
    split <;> rfl
  | cleanUp name =>
    left
    unfold step
    dsimp only
    split <;> rfl
  | _ => exact .inl rfl

/-- What is fresh stays fresh. -/
lemma Fresh.step (hlocation : s.location.isEmpty = false → s.locationField ≠ idField)
    {request : Request} {rest : List Request} (h : l.Fresh base (request :: rest)) :
    (l.step s request).2.Fresh base rest := by
  have hkeys (table : String) : insertedKeys table (request :: rest) =
      (request.insertedKey? table).toList ++ insertedKeys table rest := by
    unfold insertedKeys
    rw [List.filterMap_cons]
    cases request.insertedKey? table <;> rfl
  have hfree (table : String) : ∀ key ∈ insertedKeys table rest,
      taken (base table) (.text key) = false := fun key hkey =>
    h.free table key (hkeys table ▸ List.mem_append_right _ hkey)
  have hkeyed := h.keyed request List.mem_cons_self
  refine ⟨fun table => ?_, fun table => ?_, hfree,
    fun r hr => h.keyed r (List.mem_cons_of_mem _ hr)⟩
  · rcases documents_step hlocation l hkeyed table with hsame | ⟨doc, key, hmore, hkey, hid⟩
    · rw [hsame]
      exact h.insertable table
    · have hnodup := h.nodup table
      rw [hkeys, hkey, Option.toList_some, List.map_append, ← List.append_assoc] at hnodup
      rw [hmore]
      refine ⟨fun other hother => ?_, ?_⟩
      · rcases List.mem_append.mp hother with hother | hother
        · exact (h.insertable table).fresh other hother
        · obtain rfl := List.mem_singleton.mp hother
          refine ⟨key, hid, h.free table key ?_⟩
          rw [hkeys, hkey]
          exact List.mem_append_left _ (List.mem_singleton_self key)
      · rw [List.map_append, List.map_singleton, keyOf_eq hid]
        exact hnodup.of_append_left
  · have hnodup := h.nodup table
    rw [hkeys, List.map_append] at hnodup
    rcases documents_step hlocation l hkeyed table with hsame | ⟨doc, key, hmore, hkey, hid⟩
    · rw [hsame]
      exact hnodup.sublist ((List.sublist_append_right _ _).append_left _)
    · rw [hkey, Option.toList_some, ← List.append_assoc] at hnodup
      rw [hmore, List.map_append, List.map_singleton, keyOf_eq hid]
      exact hnodup

/-! ## The registered workers -/

/-- A request unregisters at most one worker. -/
lemma workers_step (s : Settings) (l : Ledger) (request : Request) :
    (l.step s request).2.workers = l.workers ∨
      ∃ name ∈ Mapping.keys l.workers, (l.step s request).2.workers = l.workers.set name false := by
  cases request with
  | insert name table key values =>
    left
    unfold step
    dsimp only
    split <;> rfl
  | flush name selection =>
    left
    unfold step
    dsimp only
    split <;> rfl
  | cleanUp name =>
    unfold step
    dsimp only
    cases hname : l.workers.get? name with
    | none => exact .inl rfl
    | some registered =>
      exact .inr ⟨name, List.mem_map_of_mem (Mapping.mem_of_get? hname), rfl⟩
  | _ => exact .inl rfl

lemma keys_step (s : Settings) (l : Ledger) (request : Request) :
    Mapping.keys (l.step s request).2.workers = Mapping.keys l.workers := by
  rcases workers_step s l request with hsame | ⟨name, hname, hset⟩
  · rw [hsame]
  · rw [hset, Mapping.keys_set, if_pos hname]

/-- An unregistered worker stays unregistered. -/
lemma get?_step_of_idle {name : String} (hidle : l.workers.get? name = some false)
    (request : Request) : (l.step s request).2.workers.get? name = some false := by
  rcases workers_step s l request with hsame | ⟨other, -, hset⟩
  · rw [hsame, hidle]
  · rw [hset, Mapping.get?_set, hidle, ite_self]

lemma keys_run (s : Settings) (l : Ledger) (requests : List Request) :
    Mapping.keys (l.run s requests).2.workers = Mapping.keys l.workers := by
  induction requests generalizing l with
  | nil => rfl
  | cons request rest ih => exact (ih _).trans (keys_step s l request)

lemma get?_run_of_idle {name : String} (hidle : l.workers.get? name = some false)
    (requests : List Request) : (l.run s requests).2.workers.get? name = some false := by
  induction requests generalizing l with
  | nil => exact hidle
  | cons request rest ih => exact ih (get?_step_of_idle hidle request)

/-- A worker that is cleaned up in a run is unregistered after it. -/
lemma get?_run_of_cleanUp {name : String} (hname : name ∈ Mapping.keys l.workers)
    {requests : List Request} (hclean : Request.cleanUp name ∈ requests) :
    (l.run s requests).2.workers.get? name = some false := by
  induction requests generalizing l with
  | nil => cases hclean
  | cons request rest ih =>
    rcases List.mem_cons.mp hclean with rfl | hclean
    · refine get?_run_of_idle ?_ rest
      obtain ⟨registered, hregistered⟩ := Mapping.exists_get?_of_mem_keys hname
      unfold step
      dsimp only
      rw [hregistered]
      dsimp only
      rw [Mapping.get?_set, if_pos rfl]
    · rw [← keys_step s l request] at hname
      exact ih hname hclean

/-! ## The size of a batch -/

/-- A document does not depend on the size of a batch. -/
lemma documentOf_withBatchSize (s : Settings) (size : ℤ) :
    ({ s with batchSize := size } : Settings).documentOf = s.documentOf := by
  have hprepare (excluded : String → Bool) (values : List (String × Bytes)) (doc : Document)
      (draws : Draws) :
      ({ s with batchSize := size } : Settings).prepareAll excluded doc draws values =
        s.prepareAll excluded doc draws values := by
    induction values generalizing doc draws with
    | nil => rfl
    | cons pair rest ih =>
      obtain ⟨field, data⟩ := pair
      unfold Settings.prepareAll
      simp only [ih]
  funext key values draws
  unfold Settings.documentOf
  dsimp only
  rw [hprepare]
  rfl

/-- A ledger does not depend on the size of a batch. -/
lemma step_withBatchSize (s : Settings) (size : ℤ) :
    step { s with batchSize := size } = step s := by
  funext l request
  unfold step Settings.insertOutcome Settings.stored
  rw [documentOf_withBatchSize]

lemma run_withBatchSize (s : Settings) (size : ℤ) (requests : List Request) (l : Ledger) :
    l.run { s with batchSize := size } requests = l.run s requests := by
  induction requests generalizing l with
  | nil => rfl
  | cons request rest ih =>
    unfold run
    rw [step_withBatchSize, ih]

end Ledger

end LoadBinding
